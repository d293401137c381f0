import BolterTrader.Exchange.Instruments
import BolterTrader.Foundations.Fallible
import BolterTrader.Foundations.JsonStruct

/-! The cursors of the funding-payment pages (`factoryclient/clients.go`). -/
namespace BolterTrader.FundingPaymentCursor
open Foundations Foundations.Fallible Json Exchange List Option

structure Hashes where
 sha256:List UInt8→List UInt8
 hmac:(key message:List UInt8)→List UInt8

/-! ## Envelopes and tokens -/

structure Envelope where
 version:Int64:=0
 scopeDigest:String:=""
 venueCursor:String:=""
 page:Int64:=0
 itemsSeen:Int64:=0
 sliceStartMillis:Int64:=0
 traversalStarted:Bool:=false

def envelopeFields:List String:=
 ["version","scope_digest","venue_cursor","page","items_seen","slice_start_millis","traversal_started"]

def Envelope.set (e:Envelope):String→Value→Option Envelope
 | "version",v=>(readInt64 e.version v).map fun version=>{e with version}
 | "scope_digest",v=>(readString e.scopeDigest v).map fun scopeDigest=>{e with scopeDigest}
 | "venue_cursor",v=>(readString e.venueCursor v).map fun venueCursor=>{e with venueCursor}
 | "page",v=>(readInt64 e.page v).map fun page=>{e with page}
 | "items_seen",v=>(readInt64 e.itemsSeen v).map fun itemsSeen=>{e with itemsSeen}
 | "slice_start_millis",v=>
  (readInt64 e.sliceStartMillis v).map fun sliceStartMillis=>{e with sliceStartMillis}
 | "traversal_started",v=>(readBool e.traversalStarted v).map fun traversalStarted=>{e with traversalStarted}
 | _,_=>some e

def readEnvelope:Value→Option Envelope:=readStruct envelopeFields Envelope.set {}

def Envelope.fields (e:Envelope):List (List Char×Value):=
 [("version".toList,intValue e.version.toInt),("scope_digest".toList,stringValue e.scopeDigest)] ++
  (omitEmpty "venue_cursor" (e.venueCursor="") (stringValue e.venueCursor) ++
  (omitEmpty "page" (e.page=0) (intValue e.page.toInt) ++
  (omitEmpty "items_seen" (e.itemsSeen=0) (intValue e.itemsSeen.toInt) ++
  (omitEmpty "slice_start_millis" (e.sliceStartMillis=0) (intValue e.sliceStartMillis.toInt) ++
  [("traversal_started".toList,.bool e.traversalStarted)]))))

structure Token where
 payload:String:=""
 signature:String:=""

def tokenFields:List String:=["payload","signature"]

def Token.set (token:Token):String→Value→Option Token
 | "payload",v=>(readString token.payload v).map fun payload=>{token with payload}
 | "signature",v=>(readString token.signature v).map fun signature=>{token with signature}
 | _,_=>some token

def Token.fields (token:Token):List (List Char×Value):=
 [("payload".toList,stringValue token.payload),("signature".toList,stringValue token.signature)]

/-! ## Requests -/

structure Request where
 instrument:Option Instrument
 settlementAsset:String
 start:Int
 finish:Int
 limit:Int64

def unixNano (instant:Int):Int:=(Int64.ofInt instant).toInt

def instrumentText:Option Instrument→String
 | some instrument => "instrument=" ++ instrument.identity.nativeSymbol ++ "\x00" ++ instrument.identity.nativeId ++ "\n"
 | none => "instrument=all\n"

def Request.scopeText (r:Request):String:=
 "scope:v1\nsettlement=" ++ r.settlementAsset ++ "\nstart=" ++ GoText.itoa (unixNano r.start) ++
  "\nend=" ++ GoText.itoa (unixNano r.finish) ++ "\nlimit=" ++ GoText.itoa r.limit.toInt ++ "\n" ++
  instrumentText r.instrument

variable (hashes:Hashes)

def Request.scope (r:Request):Envelope:=
 {scopeDigest:=Bytes.toHex (hashes.sha256 (Utf8.encode r.scopeText.toList))}

/-! ## Cursors -/

def scopeMessage (scopeDigest:String):List UInt8:=
 Utf8.encode ("boltertrader:funding-payment-cursor-scope:v1\n".toList++scopeDigest.toList)

def scopeTokenDigest (key:List UInt8) (scopeDigest:String):String:=
 String.ofList (Base64.rawUrl.encode (hashes.hmac key (scopeMessage scopeDigest)))

def Envelope.stamp (key:List UInt8) (e:Envelope):Envelope:=
 {e with version:=1,scopeDigest:=scopeTokenDigest hashes key e.scopeDigest,traversalStarted:=true}

def Envelope.payloadText (e:Envelope):String:=String.ofList (Base64.rawUrl.encode (toBytes (.obj e.fields)))

def signToken (key:List UInt8) (payload:String):Token:=
 {payload,signature:=String.ofList (Base64.rawUrl.encode (hashes.hmac key (Utf8.encode payload.toList)))}

def encode (key:List UInt8) (e:Envelope):String:=
 let token:=signToken hashes key (e.stamp hashes key).payloadText
 "fp:v1:" ++ String.ofList (Base64.rawUrl.encode (toBytes (.obj token.fields)))

inductive Failure where
 | notTraversal | signature | scope | base64 | json
 deriving DecidableEq

def readToken (cursor:String):Except Failure Token:=do
 refuse (¬"fp:v1:".toList.isPrefixOf cursor.toList) .notTraversal
 let raw ← required .base64 (Base64.rawUrl.decode (GoText.trimPrefix cursor "fp:v1:").toList)
 required .json ((ofBytes? raw).bind (readStruct tokenFields Token.set {}))

def decode (cursor:String) (key:List UInt8) (expected:Envelope):Except Failure Envelope:=
 if cursor="" then .ok {expected with traversalStarted:=true}
 else do
  let token ← readToken cursor
  let signature ← required .base64 (Base64.rawUrl.decode token.signature.toList)
  refuse (signature≠hashes.hmac key (Utf8.encode token.payload.toList)) .signature
  let raw ← required .base64 (Base64.rawUrl.decode token.payload.toList)
  let envelope ← required .json ((ofBytes? raw).bind readEnvelope)
  refuse (envelope.version≠1∨envelope.traversalStarted=false∨
   envelope.scopeDigest≠scopeTokenDigest hashes key expected.scopeDigest) .scope
  return envelope

/-! ## What is written is read back -/

section
variable (e:Envelope) (token:Token) (key:List UInt8)

theorem structField_envelope:∀ name∈envelopeFields,structField envelopeFields (unquote name.toList)=some name:=by
 decide

theorem readEnvelope_fields:readEnvelope (.obj e.fields)=some e:=by
 have hver:=structField_envelope "version" (by decide)
 have hdig:=structField_envelope "scope_digest" (by decide)
 have hstd:=structField_envelope "traversal_started" (by decide)
 -- the envelope after each of its fields has been read
 let e₀ : Envelope:={version:=e.version,scopeDigest:=e.scopeDigest}
 let e₁ : Envelope:={e₀ with venueCursor:=e.venueCursor}
 let e₂ : Envelope:={e₁ with page:=e.page}
 let e₃ : Envelope:={e₂ with itemsSeen:=e.itemsSeen}
 let e₄ : Envelope:={e₃ with sliceStartMillis:=e.sliceStartMillis}
 have hfst: [("version".toList,intValue e.version.toInt),("scope_digest".toList,stringValue e.scopeDigest)].foldlM
   (setField envelopeFields Envelope.set) {}=some e₀:=by
  simp only[foldlM_cons,foldlM_nil,setField,hver,hdig,Envelope.set,readInt64_intValue,
   readString_stringValue,map_some,bind_eq_bind,bind_some,Option.pure_def]
  rfl
 have hcur:=foldlM_omitEmpty (fun (e:Envelope) venueCursor=>{e with venueCursor})
  (structField_envelope "venue_cursor" (by decide))
  (show e₀.set "venue_cursor" (stringValue e.venueCursor)=some e₁ by simp[Envelope.set,e₁])
  (show {e₀ with venueCursor:="" }=e₀ from rfl)
 have hpage:=foldlM_omitEmpty (fun (e:Envelope) page=>{e with page})
  (structField_envelope "page" (by decide))
  (show e₁.set "page" (intValue e.page.toInt)=some e₂ by simp[Envelope.set,e₂])
  (show {e₁ with page:=0}=e₁ from rfl)
 have hseen:=foldlM_omitEmpty (fun (e:Envelope) itemsSeen=>{e with itemsSeen})
  (structField_envelope "items_seen" (by decide))
  (show e₂.set "items_seen" (intValue e.itemsSeen.toInt)=some e₃ by simp[Envelope.set,e₃])
  (show {e₂ with itemsSeen:=0}=e₂ from rfl)
 have hsli:=foldlM_omitEmpty (fun (e:Envelope) sliceStartMillis=>{e with sliceStartMillis})
  (structField_envelope "slice_start_millis" (by decide))
  (show e₃.set "slice_start_millis" (intValue e.sliceStartMillis.toInt)=some e₄ by simp[Envelope.set,e₄])
  (show {e₃ with sliceStartMillis:=0}=e₃ from rfl)
 have hlast: [("traversal_started".toList,Value.bool e.traversalStarted)].foldlM
   (setField envelopeFields Envelope.set) e₄=some e:=by
  simp only[foldlM_cons,foldlM_nil,setField,hstd,Envelope.set,readBool,map_some,
   bind_eq_bind,bind_some,Option.pure_def]
  rfl
 exact foldlM_setField_append hfst (foldlM_setField_append hcur (foldlM_setField_append hpage
  (foldlM_setField_append hseen (foldlM_setField_append hsli hlast))))

theorem valid_envelope:Valid (.obj e.fields):=by
 have hkeys:∀ name∈envelopeFields,IsRaw name.toList:=by decide
 apply valid_obj
 simp only[Envelope.fields,forall_mem_append,forall_mem_cons]
 exact ⟨⟨⟨hkeys _ (by decide),valid_intValue _⟩,⟨hkeys _ (by decide),valid_stringValue _⟩,by simp⟩,
  valid_omitEmpty _ (hkeys _ (by decide)) (valid_stringValue _),
  valid_omitEmpty _ (hkeys _ (by decide)) (valid_intValue _),
  valid_omitEmpty _ (hkeys _ (by decide)) (valid_intValue _),
  valid_omitEmpty _ (hkeys _ (by decide)) (valid_intValue _),
  ⟨hkeys _ (by decide),.bool _⟩,by simp⟩

theorem readStruct_token:readStruct tokenFields Token.set {} (.obj token.fields)=some token:=by
 have hpay:structField tokenFields (unquote "payload".toList)=some "payload" := by decide
 have hsig:structField tokenFields (unquote "signature".toList)=some "signature" := by decide
 simp only[Token.fields,readStruct,foldlM_cons,foldlM_nil,setField,hpay,hsig,Token.set,
  readString_stringValue,map_some,bind_eq_bind,bind_some,Option.pure_def]

theorem valid_token:Valid (.obj token.fields):=by
 have hkeys:∀ name∈tokenFields,IsRaw name.toList:=by decide
 apply valid_obj
 simp only[Token.fields,forall_mem_cons]
 exact ⟨⟨hkeys _ (by decide),valid_stringValue _⟩,⟨hkeys _ (by decide),valid_stringValue _⟩,by simp⟩

theorem readEnvelope_payloadText :
 (Base64.rawUrl.decode e.payloadText.toList).bind (fun raw=>(ofBytes? raw).bind readEnvelope)=some e:=by
 rw[Envelope.payloadText,String.toList_ofList,Base64.decode_encode,bind_some,
  ofBytes?_toBytes (valid_envelope e),bind_some,readEnvelope_fields]

def cursorOf (text:List Char):String:="fp:v1:" ++ String.ofList (Base64.rawUrl.encode (Utf8.encode text))

theorem readToken_cursorOf (text:List Char):
 readToken (cursorOf text)=required .json ((Json.parse text).bind (readStruct tokenFields Token.set {})):=by
 have htext:(cursorOf text).toList="fp:v1:".toList++Base64.rawUrl.encode (Utf8.encode text):=by
  rw[cursorOf,String.toList_append,@String.toList_ofList (Base64.rawUrl.encode (Utf8.encode text))]
 have hmark: "fp:v1:".toList.isPrefixOf (cursorOf text).toList=true:=by
  grind
 have htrim:(GoText.trimPrefix (cursorOf text) "fp:v1:").toList=Base64.rawUrl.encode (Utf8.encode text):=by
  rw[GoText.trimPrefix,if_pos hmark,String.toList_ofList,htext,drop_left]
 rw[readToken,htrim,Base64.decode_encode,refuse,if_neg (not_not_intro hmark)]
 show required Failure.json ((ofBytes? (Utf8.encode text)).bind (readStruct tokenFields Token.set {}))=_
 rw[ofBytes?,Utf8.decode_encode]

theorem cursorOf_ne_empty (text:List Char):cursorOf text≠"" := by
 intro h
 have hlist:=congrArg String.toList h
 rw[cursorOf,String.toList_append] at hlist
 simp at hlist

structure Token.Accepted (token:Token) (key:List UInt8) (expected envelope:Envelope):Prop where
 signature:Base64.rawUrl.decode token.signature.toList=some (hashes.hmac key (Utf8.encode token.payload.toList))
 payload:(Base64.rawUrl.decode token.payload.toList).bind (fun raw=>(ofBytes? raw).bind readEnvelope)=some envelope
 version:envelope.version=1
 started:envelope.traversalStarted=true
 scope:envelope.scopeDigest=scopeTokenDigest hashes key expected.scopeDigest

variable {hashes key}

theorem decode_eq_ok {cursor:String} {exp envelope:Envelope} (hne:cursor≠""):
 decode hashes cursor key exp=.ok envelope ↔
  ∃ token,readToken cursor=.ok token∧token.Accepted hashes key exp envelope:=by
 rw[decode,if_neg hne]
 constructor
 · intro h
   obtain ⟨token,htok,h⟩:=bind_eq_ok h
   obtain ⟨sgn,hsig,h⟩:=bind_eq_ok h
   obtain ⟨_,hmac,h⟩:=bind_eq_ok h
   obtain ⟨raw,hraw,h⟩:=bind_eq_ok h
   obtain ⟨read,hread,h⟩:=bind_eq_ok h
   obtain ⟨_,hsco,h⟩:=bind_eq_ok h
   cases h
   have hsame:=not_not.mp (refuse_eq_ok hmac)
   have hche:=refuse_eq_ok hsco
   simp only[not_or,ne_eq,not_not,Bool.not_eq_false] at hche
   refine ⟨token,htok,?_,?_,hche.1,hche.2.1,hche.2.2⟩
   · rw[required_eq_ok hsig,hsame]
   · rw[required_eq_ok hraw,bind_some,required_eq_ok hread]
 · rintro ⟨token,htok,h⟩
   obtain ⟨raw,hraw,hread⟩:=bind_eq_some_iff.mp h.payload
   have hche:¬(envelope.version≠1∨envelope.traversalStarted=false∨
     envelope.scopeDigest≠scopeTokenDigest hashes key exp.scopeDigest):=by
    simp[h.version,h.started,h.scope]
   simp only[htok,bind,Except.bind,h.signature,hraw,hread,required,refuse,ne_eq,not_true,if_false,
    if_neg hche]
   rfl

theorem readToken_encode:readToken (encode hashes key e)=.ok (signToken hashes key (e.stamp hashes key).payloadText):=by
 show readToken (cursorOf (render (.obj (signToken hashes key (e.stamp hashes key).payloadText).fields)))=_
 rw[readToken_cursorOf,parse_render (valid_token _),bind_some,readStruct_token]
 rfl

theorem accepted_signToken {exp:Envelope} (hsco:e.scopeDigest=exp.scopeDigest):
  (signToken hashes key (e.stamp hashes key).payloadText).Accepted hashes key exp (e.stamp hashes key) where
 signature:=by rw[signToken,String.toList_ofList,Base64.decode_encode]
 payload:=readEnvelope_payloadText (e.stamp hashes key)
 version:=rfl
 started:=rfl
 scope:=congrArg (scopeTokenDigest hashes key) hsco

theorem decode_encode {exp:Envelope} (hsco:e.scopeDigest=exp.scopeDigest):
 decode hashes (encode hashes key e) key exp=.ok (e.stamp hashes key):=
 (decode_eq_ok (cursorOf_ne_empty _)).mpr ⟨_,readToken_encode e,accepted_signToken e hsco⟩

end

/-! ## The text of a scope says which request it is for -/

structure Request.Clean (r:Request):Prop where
 settlementAsset: '\n' ∉ r.settlementAsset.toList
 nativeSymbol:∀ instrument∈r.instrument,'\x00' ∉ instrument.identity.nativeSymbol.toList
 start:Decimal.fitsInt64 r.start=true
 finish:Decimal.fitsInt64 r.finish=true

def nativeNames (instrument:Instrument):String×String:=
 (instrument.identity.nativeSymbol,instrument.identity.nativeId)

structure Request.Same (r r':Request):Prop where
 instrument:r.instrument.map nativeNames=r'.instrument.map nativeNames
 settlementAsset:r.settlementAsset=r'.settlementAsset
 start:r.start=r'.start
 finish:r.finish=r'.finish
 limit:r.limit=r'.limit

theorem unixNano_eq {instant:Int} (h:Decimal.fitsInt64 instant=true):unixNano instant=instant:=by
 rw[Decimal.fitsInt64,decide_eq_true_eq] at h
 exact Int64.toInt_ofInt_of_le (by omega) (by omega)

theorem newline_notMem_itoa (n:Int): '\n' ∉ (GoText.itoa n).toList:=by
 rw[GoText.itoa,Decimal.toString_int,String.toList_ofList]
 intro h
 obtain hsign | hdig:=Decimal.isDigit_of_mem_signed h
 · exact absurd hsign (by decide)
 · exact absurd hdig (by decide)

theorem itoa_injective:Function.Injective GoText.itoa:=by
 intro a b h
 rw[GoText.itoa,GoText.itoa,Decimal.toString_int,Decimal.toString_int,String.ofList_inj] at h
 exact Decimal.signed_injective 0 h

theorem instrumentText_inj {a b:Option Instrument} (ha:∀ i∈a,'\x00' ∉ i.identity.nativeSymbol.toList)
 (hb:∀ i∈b,'\x00' ∉ i.identity.nativeSymbol.toList) (h:instrumentText a=instrumentText b):
 a.map nativeNames=b.map nativeNames:=by
 -- only the text of an instrument has a NUL
 have hnul:∀ i,'\x00' ∈ (instrumentText (some i)).toList:=by simp[instrumentText]
 cases a with
 | none=>
  cases b with
  | none=>rfl
  | some i=>exact absurd (h▸hnul i) (by decide)
 | some i=>
  cases b with
  | none=>exact absurd (h▸hnul i) (by decide)
  | some j=>
   have htext:=congrArg String.toList h
   have hmark: "\x00".toList=['\x00']:=rfl
   simp only[instrumentText,String.toList_append,append_assoc,hmark,cons_append,nil_append] at htext
   obtain ⟨hsym,hid⟩:=GoText.cut_at_mark (ha i rfl) (hb j rfl) (append_cancel_left htext)
   have hid:=append_cancel_right hid
   rw[map_some,map_some,nativeNames,nativeNames,String.toList_inj.mp hsym,String.toList_inj.mp hid]

theorem Request.toList_scopeText (r:Request):
 r.scopeText.toList="scope:v1\nsettlement=".toList++(r.settlementAsset.toList ++ '\n' ::
  ("start=".toList++((GoText.itoa (unixNano r.start)).toList ++ '\n' ::
  ("end=".toList++((GoText.itoa (unixNano r.finish)).toList ++ '\n' ::
  ("limit=".toList++((GoText.itoa r.limit.toInt).toList ++ '\n' :: (instrumentText r.instrument).toList))))))):=by
 have hstrt: "\nstart=".toList = '\n' :: "start=".toList:=rfl
 have hfin: "\nend=".toList = '\n' :: "end=".toList:=rfl
 have hlimit: "\nlimit=".toList = '\n' :: "limit=".toList:=rfl
 have hend: "\n".toList=['\n']:=rfl
 unfold Request.scopeText
 simp only[String.toList_append]
 rw[hstrt,hfin,hlimit,hend]
 simp only[append_assoc,cons_append,nil_append]

theorem scopeText_inj {r r':Request} (hr:r.Clean) (hr':r'.Clean) (h:r.scopeText=r'.scopeText):r.Same r':=by
 have htext:=congrArg String.toList h
 rw[r.toList_scopeText,r'.toList_scopeText] at htext
 have hn:∀ {m n:Int} {lbl rest rest':List Char},lbl++((GoText.itoa m).toList ++ '\n' :: rest) =
   lbl++((GoText.itoa n).toList ++ '\n' :: rest')→ m=n∧rest=rest':=by
  intro m n lbl rest rest' hline
  obtain ⟨hdigi,hrest⟩:=
   GoText.cut_at_mark (newline_notMem_itoa m) (newline_notMem_itoa n) (append_cancel_left hline)
  exact ⟨itoa_injective (String.toList_inj.mp hdigi),hrest⟩
 obtain ⟨hset,htext⟩:=GoText.cut_at_mark hr.settlementAsset hr'.settlementAsset (append_cancel_left htext)
 obtain ⟨hstrt,htext⟩:=hn htext
 obtain ⟨hfin,htext⟩:=hn htext
 obtain ⟨hlimit,htext⟩:=hn htext
 rw[unixNano_eq hr.start,unixNano_eq hr'.start] at hstrt
 rw[unixNano_eq hr.finish,unixNano_eq hr'.finish] at hfin
 exact ⟨instrumentText_inj hr.nativeSymbol hr'.nativeSymbol (String.toList_inj.mp htext),String.toList_inj.mp hset,
  hstrt,hfin,Int64.toInt_inj.mp hlimit⟩

/-! ## Cursors that were issued -/

structure Traversal where
 venueCursor:String:=""
 page:Int64:=0
 itemsSeen:Int64:=0
 sliceStartMillis:Int64:=0

def Envelope.traversal (e:Envelope):Traversal:=
 {venueCursor:=e.venueCursor,page:=e.page,itemsSeen:=e.itemsSeen,sliceStartMillis:=e.sliceStartMillis}

structure Issue where
 request:Request
 traversal:Traversal

def Issue.next (issue:Issue):Envelope:=
 {issue.request.scope hashes with
   venueCursor:=issue.traversal.venueCursor
   page:=issue.traversal.page
   itemsSeen:=issue.traversal.itemsSeen
   sliceStartMillis:=issue.traversal.sliceStartMillis}

def Issue.cursor (key:List UInt8) (issue:Issue):String:=encode hashes key (issue.next hashes)
def Issue.payloadText (key:List UInt8) (issue:Issue):String:=((issue.next hashes).stamp hashes key).payloadText
def Request.message (r:Request):List UInt8:=scopeMessage (r.scope hashes).scopeDigest

def signedMessages (key:List UInt8) (issued:List Issue) (request:Request):List (List UInt8):=
 request.message hashes ::
  issued.flatMap fun issue=>[Utf8.encode (issue.payloadText hashes key).toList,issue.request.message hashes]

/-- The hashes do not collide and no signature is forged. -/
structure Ideal (key:List UInt8) (issued:List Issue) (request:Request) (cursor:String):Prop where
 sha256:∀ issue∈issued,hashes.sha256 (Utf8.encode issue.request.scopeText.toList) =
  hashes.sha256 (Utf8.encode request.scopeText.toList)→ issue.request.scopeText=request.scopeText
 hmac:∀ issue∈issued,hashes.hmac key (issue.request.message hashes)=hashes.hmac key (request.message hashes) →
  issue.request.message hashes=request.message hashes
 unforged:∀ token,readToken cursor=.ok token →
  Base64.rawUrl.decode token.signature.toList=some (hashes.hmac key (Utf8.encode token.payload.toList)) →
  Utf8.encode token.payload.toList∈signedMessages hashes key issued request

section
variable {hashes} {key:List UInt8} {issued:List Issue} {request:Request} {cursor:String}

theorem decode_scopeMessage {text:String} {sdi:String} (h:Utf8.encode text.toList=scopeMessage sdi):
 Base64.rawUrl.decode text.toList=none:=by
 have hcol: ':' ∈ text.toList:=by
  rw[Utf8.encode_injective h]
  exact mem_append_left _ (by decide)
 exact Base64.decode_eq_none Base64.rawUrl hcol (by decide) (by decide) (by decide)

theorem scopeMessage_injective:Function.Injective scopeMessage:=by
 intro a b h
 exact String.toList_inj.mp (append_cancel_left (Utf8.encode_injective h))

theorem toHex_injective:Function.Injective Bytes.toHex:=by
 intro a b h
 have hread:=congrArg Bytes.ofHex? h
 simpa using hread

theorem Ideal.same (hide:Ideal hashes key issued request cursor) (hiss:∀ iss∈issued,iss.request.Clean)
 (hreq:request.Clean) {iss:Issue} (hmem:iss∈issued)
 (hdig:scopeTokenDigest hashes key (iss.request.scope hashes).scopeDigest =
  scopeTokenDigest hashes key (request.scope hashes).scopeDigest):iss.request.Same request:=by
 have hmac:=Base64.encode_injective Base64.rawUrl (String.ofList_inj.mp hdig)
 have hhex:=scopeMessage_injective (hide.hmac iss hmem hmac)
 exact scopeText_inj (hiss iss hmem) hreq (hide.sha256 iss hmem (toHex_injective hhex))

theorem Ideal.issued_of_accepted (hide:Ideal hashes key issued request cursor) {token:Token} {env:Envelope}
 (htok:readToken cursor=.ok token) (h:token.Accepted hashes key (request.scope hashes) env):
 ∃ iss∈issued,token.payload=iss.payloadText hashes key:=by
 have hsco:∀ scopeDigest,Utf8.encode token.payload.toList≠scopeMessage scopeDigest:=by
  intro scopeDigest hmsg
  have hpay:=h.payload
  rw[decode_scopeMessage hmsg] at hpay
  cases hpay
 obtain hown | hiss:=mem_cons.mp (hide.unforged token htok h.signature)
 · exact absurd hown (hsco _)
 · obtain ⟨iss,hmem,hmsg⟩:=mem_flatMap.mp hiss
   simp only[mem_cons,not_mem_nil,or_false] at hmsg
   obtain hpay | hoth:=hmsg
   · exact ⟨iss,hmem,String.toList_inj.mp (Utf8.encode_injective hpay)⟩
   · exact absurd hoth (hsco _)

end

/-- A cursor decodes to what was encoded, and what decodes was issued for the same request. -/
theorem cursor_authentic (key:List UInt8) (issued:List Issue) (request:Request)
 (hissued:∀ issue∈issued,issue.request.Clean) (hrequest:request.Clean):
 (∀ traversal,∃ envelope,
  decode hashes (Issue.cursor hashes key ⟨request,traversal⟩) key (request.scope hashes)=.ok envelope∧
   envelope.traversal=traversal)∧
  ∀ cursor envelope,cursor≠"" → Ideal hashes key issued request cursor →
   decode hashes cursor key (request.scope hashes)=.ok envelope →
   ∃ issue∈issued,issue.request.Same request∧envelope.traversal=issue.traversal∧
    (readToken cursor).map Token.payload=(readToken (issue.cursor hashes key)).map Token.payload:=by
 constructor
 · intro traversal
   exact ⟨_,decode_encode _ rfl,rfl⟩
 · intro cursor envelope hne hide hdec
   obtain ⟨token,htok,hacc⟩:=(decode_eq_ok hne).mp hdec
   obtain ⟨issue,hmem,hpay⟩:=hide.issued_of_accepted htok hacc
   have henv:(issue.next hashes).stamp hashes key=envelope:=by
    have hread:=hacc.payload
    rw[hpay,Issue.payloadText,readEnvelope_payloadText] at hread
    exact some.inj hread
   subst henv
   refine ⟨issue,hmem,hide.same hissued hrequest hmem hacc.scope,rfl,?_⟩
   rw[htok,Issue.cursor,readToken_encode]
   exact congrArg Except.ok hpay

namespace Scenario

def plain:Hashes:={sha256:=id,hmac:=fun key message=>key++message}

def request:Request:=
 { instrument:=some {identity:={nativeSymbol:="BTC_USDT",nativeId:="1" }}
   settlementAsset:="USDT"
   start:=1700000000000000000
   finish:=1700086400000000000
   limit:=100}

def issue:Issue:={request,traversal:={venueCursor:="next",itemsSeen:=100}}

theorem clean:request.Clean:=by
 refine ⟨by decide,?_,by decide,by decide⟩
 intro ins h
 cases h
 decide

theorem clean_issued:∀ en∈[issue],en.request.Clean:=by
 intro en hen
 rw[mem_singleton.mp hen]
 exact clean

theorem ideal {key:List UInt8} {cursor:String} (h:readToken cursor=readToken (issue.cursor plain key)):
  Ideal plain key [issue] request cursor where
 sha256 entry hen _:=by rw[mem_singleton.mp hen]; rfl
 hmac entry hen _:=by rw[mem_singleton.mp hen]; rfl
 unforged token htok _:=by
  rw[h,Issue.cursor,readToken_encode] at htok
  rw[←Except.ok.inj htok]
  exact mem_cons_of_mem _ (mem_flatMap.mpr ⟨issue,mem_singleton_self _,mem_cons_self⟩)

end Scenario

theorem cursor_authentic_usdt :
 ∃ envelope,decode Scenario.plain (Scenario.issue.cursor Scenario.plain [7]) [7]
   (Scenario.request.scope Scenario.plain)=.ok envelope∧envelope.traversal.itemsSeen=100∧
  ∃ entry∈[Scenario.issue],entry.request.Same Scenario.request∧envelope.traversal=entry.traversal:=by
 obtain ⟨hrou,hso⟩:=cursor_authentic Scenario.plain [7] [Scenario.issue] Scenario.request Scenario.clean_issued
  Scenario.clean
 obtain ⟨envelope,hdec,htra⟩:=hrou Scenario.issue.traversal
 obtain ⟨entry,hen,hsame,henTr,-⟩:=hso _ envelope (cursorOf_ne_empty _) (Scenario.ideal rfl) hdec
 exact ⟨envelope,hdec,by rw[htra]; rfl,entry,hen,hsame,henTr⟩

/-! ## Another spelling of an issued cursor -/

def respelled (key:List UInt8) (e:Envelope):String:=
 cursorOf (' ' :: render (.obj (signToken hashes key (e.stamp hashes key).payloadText).fields))

section
variable {hashes} (key:List UInt8) (e:Envelope)

theorem readToken_respelled:readToken (respelled hashes key e)=readToken (encode hashes key e):=by
 have hspa:∀ text,Json.parse (' ' :: text)=Json.parse text:=fun _=>rfl
 show _=readToken (cursorOf (render (.obj (signToken hashes key (e.stamp hashes key).payloadText).fields)))
 rw[respelled,readToken_cursorOf,readToken_cursorOf,hspa]

theorem respelled_ne_encode (key':List UInt8) (e':Envelope):respelled hashes key e≠encode hashes key' e':=by
 intro h
 have hlist:=congrArg String.toList h
 simp only[respelled,encode,cursorOf,toBytes,String.toList_append,@String.toList_ofList] at hlist
 have htext:=Utf8.encode_injective (Base64.encode_injective Base64.rawUrl (append_cancel_left hlist))
 rw[render] at htext
 exact absurd (cons.inj htext).1 (by decide)

theorem decode_respelled (expected:Envelope):
 decode hashes (respelled hashes key e) key expected=decode hashes (encode hashes key e) key expected:=by
 have hres:respelled hashes key e≠"" := cursorOf_ne_empty _
 have henc:encode hashes key e≠"" := cursorOf_ne_empty _
 rw[decode,decode,if_neg hres,if_neg henc,readToken_respelled]

end

theorem respelled_cursor_accepted :
 ∃ cursor envelope,cursor≠""∧Scenario.request.Clean∧(∀ entry∈[Scenario.issue],entry.request.Clean)∧
  Ideal Scenario.plain [7] [Scenario.issue] Scenario.request cursor∧
  decode Scenario.plain cursor [7] (Scenario.request.scope Scenario.plain)=.ok envelope∧
  ∀ e,cursor≠encode Scenario.plain [7] e:=by
 have hdec:decode Scenario.plain (respelled Scenario.plain [7] (Scenario.issue.next Scenario.plain)) [7]
   (Scenario.request.scope Scenario.plain)=.ok ((Scenario.issue.next Scenario.plain).stamp Scenario.plain [7]):=by
  rw[decode_respelled]
  exact decode_encode _ rfl
 exact ⟨_,_,cursorOf_ne_empty _,Scenario.clean,Scenario.clean_issued,Scenario.ideal (readToken_respelled _ _),hdec,
  respelled_ne_encode [7] _ [7]⟩

end BolterTrader.FundingPaymentCursor
