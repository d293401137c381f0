import BolterTrader.Adapters.NativeErrors

/-! Attaching an HTTP response to a native error (`internal/venuehttp/http.go`). -/
namespace BolterTrader.Adapters
open Foundations List

structure Response where
 statusCode:Int
 method:String
 path:String
 retryAfter:Int:=0
 method_word: ' ' ∉ method.toList
 path_word: ' ' ∉ path.toList

def Response.error (response:Response):HttpError:=
 { statusCode:=response.statusCode
   method:=response.method
   path:=response.path
   retryAfter:=response.retryAfter}

def withHttpResponse (err:NativeError) (response:Response):NativeError:=
 match err.as? Fault.http? with
 | some _=>err
 | none=>.wrap (.http response.error) err

/-! ## At most one response in a chain -/

def responses (err:NativeError):List HttpError:=err.chain.filterMap Fault.http?

theorem responses_wrap (flt:Fault) (err:NativeError):
 responses (.wrap flt err)=(Fault.http? flt).toList++responses err:=by
 simp only[responses,ErrorTree.wrap,ErrorTree.chain,ErrorTree.chains,append_nil,filterMap_cons]
 cases Fault.http? flt<;>rfl

theorem responses_eq_nil_iff (err:NativeError):responses err=[] ↔ err.as? Fault.http?=none:=by
 rw[responses,filterMap_eq_nil_iff,ErrorTree.as?_eq_none_iff]

theorem withHttpResponse_once {err:NativeError} (h:(responses err).length≤1) (rsp:Response):
 (responses (withHttpResponse err rsp)).length≤1:=by
 unfold withHttpResponse
 cases hr : err.as? Fault.http? with
 | some=>exact h
 | none=>
  have hnil:responses err=[]:=(responses_eq_nil_iff err).mpr hr
  rw[responses_wrap,hnil]
  simp[Fault.http?]

theorem as?_http_of_mem {err:NativeError} (honce:(responses err).length≤1) {http:HttpError}
 (hmem:Fault.http http∈err.chain):err.as? Fault.http?=some http:=by
 have hin:http∈responses err:=mem_filterMap.mpr ⟨.http http,hmem,rfl⟩
 have hone:responses err=[http]:=by
  obtain ⟨only,honly⟩:=length_eq_one_iff.mp (Nat.le_antisymm honce (length_pos_of_mem hin))
  grind
 cases hfd : err.as? Fault.http? with
 | none=>
  rw[(responses_eq_nil_iff err).mpr hfd] at hone
  cases hone
 | some fnd=>
  obtain ⟨flt,hfau,hsel⟩:=ErrorTree.exists_mem_of_as? hfd
  have hmeFo:fnd∈responses err:=mem_filterMap.mpr ⟨flt,hfau,hsel⟩
  grind

structure SdkError where
 error:NativeError
 once:(responses error).length≤1

def SdkError.withHttpResponse (err:SdkError) (response:Response):SdkError:=
 ⟨Adapters.withHttpResponse err.error response,withHttpResponse_once err.once response⟩

/-! ## The rendered text -/

theorem toList_parts (a b c d e f g h i:String):
 (a++b++c++d++e++f++g++h++i).toList =
  a.toList++(b.toList++(c.toList++(d.toList++(e.toList++(f.toList++(g++h++i).toList))))):=by
 simp only[String.toList_append,append_assoc]

theorem responseText_not_transport (rsp:Response):
 GoText.contains (Fault.text (.http rsp.error)) "transport failed" = false:=by
 rw[Bool.eq_false_iff]
 intro h
 have hwin: ['t',' ','f'] <:+: (Fault.text (.http rsp.error)).toList:=
  GoText.contains_infix h ⟨"transpor".toList,"ailed".toList,by decide⟩
 have htext:(Fault.text (.http rsp.error)).toList =
   "venue HTTP failure (method=".toList++(rsp.method.toList++(" path=".toList ++
    (rsp.path.toList++(" status=".toList ++
     ((GoText.itoa rsp.statusCode).toList ++ " code=)".toList))))):=by
  have hcode: " code=" ++ "" ++ ")" = " code=)" := by decide
  rw[←hcode]
  exact toList_parts _ _ _ _ _ _ _ _ _
 have hend:¬ ['t',' ','f'] <:+: " status=".toList ++
   ((GoText.itoa rsp.statusCode).toList ++ " code=)".toList):=
  GoText.not_infix_around_word (GoText.itoa_space _) (by decide) (by decide) (by decide) (by decide) (by decide)
 have hpath:¬ ['t',' ','f'] <:+: " path=".toList++(rsp.path.toList++(" status=".toList ++
   ((GoText.itoa rsp.statusCode).toList ++ " code=)".toList))):=
  GoText.not_infix_around_word rsp.path_word (by decide) (by decide) (by decide) hend (by
   rintro ⟨rest,hrest⟩
   simp at hrest)
 rw[htext] at hwin
 exact GoText.not_infix_around_word rsp.method_word (by decide) (by decide) (by decide) hpath (by
  rintro ⟨rest,hrest⟩
  simp at hrest) hwin

end BolterTrader.Adapters
