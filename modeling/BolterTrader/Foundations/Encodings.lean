import Mathlib.Data.List.TakeWhile

/-! Texts as bytes and bytes as text: UTF-8 as Go reads it, where a byte that is no part of
an encoded character stands for U+FFFD, and base64 as `encoding/base64` reads it, where
line breaks and the last bits of an unfinished group do not count. -/
namespace BolterTrader.Foundations
open List

namespace Utf8

def encode (text:List Char):List UInt8:=text.flatMap String.utf8EncodeChar
def first? (bytes:List UInt8):Option Char:=bytes.toByteArray.utf8DecodeChar? 0

def decodeFrom:ℕ→List UInt8→List Char
 | _,[]=>[]
 | skip+1,_::rest=>decodeFrom skip rest
 | 0,byte::rest=>
  match first? (byte::rest) with
  | some c=>c::decodeFrom (c.utf8Size-1) rest
  | none => '�' :: decodeFrom 0 rest

def decode (bytes:List UInt8):List Char:=decodeFrom 0 bytes

theorem decodeFrom_append (skp rest:List UInt8):decodeFrom skp.length (skp++rest)=decodeFrom 0 rest:=by
 induction skp with
 | nil=>rfl
 | cons byte skp ih=>simpa[decodeFrom] using ih

theorem first?_encode (c:Char) (rest:List UInt8):first? (String.utf8EncodeChar c++rest)=some c:=by
 rw[first?,toByteArray_append]
 exact ByteArray.utf8DecodeChar?_utf8EncodeChar_append

@[simp] theorem decode_encode (text:List Char):decode (encode text)=text:=by
 induction text with
 | nil=>rfl
 | cons c text ih=>
  have hlen:=String.length_utf8EncodeChar c
  have hfst:=first?_encode c (encode text)
  rw[encode,flatMap_cons,←encode]
  cases hby : String.utf8EncodeChar c with
  | nil=>
   grind [Char.utf8Size_pos,length_nil]
  | cons byte more=>
   grind [decode,decodeFrom,decodeFrom_append,length_cons]

theorem encode_injective:Function.Injective encode:=Function.LeftInverse.injective decode_encode

end Utf8

namespace Base64

def digit (last:Char×Char) (value:ℕ):Char:=
 if value<26 then Char.ofNat (65+value)
 else if value<52 then Char.ofNat (97+(value-26))
 else if value<62 then Char.ofNat (48+(value-52))
 else if value=62 then last.1
 else last.2

def value? (last:Char×Char) (c:Char):Option ℕ:=
 if 'A' ≤ c∧c ≤ 'Z' then some (c.toNat-65)
 else if 'a' ≤ c∧c ≤ 'z' then some (c.toNat-97+26)
 else if '0' ≤ c∧c ≤ '9' then some (c.toNat-48+52)
 else if c=last.1 then some 62
 else if c=last.2 then some 63
 else none

def isBreak (c:Char):Bool:=c = '\n' || c = '\r'

structure Encoding where
 last:Char×Char
 padded:Bool
 digits:∀ value<64,value? last (digit last value)=some value∧isBreak (digit last value)=false:=by decide
 pad:value? last '=' = none:=by decide

def std:Encoding:={last:=('+','/'),padded:=true}
def rawUrl:Encoding:={last:=('-','_'),padded:=false}

def sextets:List UInt8→List ℕ
 | x::y::z::rest=>
  x.toNat/4::(x.toNat % 4*16+y.toNat/16)::(y.toNat % 16*4+z.toNat/64)::z.toNat % 64 ::
   sextets rest
 | [x,y]=>[x.toNat/4,x.toNat % 4*16+y.toNat/16,y.toNat % 16*4]
 | [x]=>[x.toNat/4,x.toNat % 4*16]
 | []=>[]

def octets:List ℕ→Option (List UInt8)
 | a::b::c::d::rest=>
  (octets rest).map fun bytes=>
   UInt8.ofNat (a*4+b/16)::UInt8.ofNat (b % 16*16+c/4)::UInt8.ofNat (c % 4*64+d)::bytes
 | [a,b,c]=>some [UInt8.ofNat (a*4+b/16),UInt8.ofNat (b % 16*16+c/4)]
 | [a,b]=>some [UInt8.ofNat (a*4+b/16)]
 | [_]=>none
 | []=>some []

def Encoding.padding (e:Encoding) (digits:ℕ):List Char:=
 if e.padded then List.replicate ((4-digits % 4) % 4) '=' else []

def Encoding.encode (e:Encoding) (bytes:List UInt8):List Char:=
 (sextets bytes).map (digit e.last)++e.padding (sextets bytes).length

def Encoding.isDigit (e:Encoding) (c:Char):Bool:=(value? e.last c).isSome

def Encoding.decode (e:Encoding) (text:List Char):Option (List UInt8):=
 let text:=text.filter fun c=>!isBreak c
 let digits:=text.takeWhile e.isDigit
 if text.dropWhile e.isDigit=e.padding digits.length then octets (digits.filterMap (value? e.last)) else none

theorem ofNat_toNat_of_eq {x:UInt8} {n:ℕ} (h:n=x.toNat):UInt8.ofNat n=x:=by
 rw[h,UInt8.ofNat_toNat]

theorem octets_sextets (bytes:List UInt8):octets (sextets bytes)=some bytes:=by
 induction bytes using sextets.induct with
 | case1 x y z rest ih=>
  have hx:(x.toNat/4)*4+(x.toNat % 4*16+y.toNat/16)/16=x.toNat:=by
   have:=y.toNat_lt
   omega
  have hy:(x.toNat % 4*16+y.toNat/16) % 16*16+(y.toNat % 16*4+z.toNat/64)/4=y.toNat:=by
   have:=y.toNat_lt
   have:=z.toNat_lt
   omega
  have hz:(y.toNat % 16*4+z.toNat/64) % 4*64+z.toNat % 64=z.toNat:=by
   have:=z.toNat_lt
   omega
  grind [sextets,octets,ofNat_toNat_of_eq]
 | case2 x y=>
  grind [sextets,octets,ofNat_toNat_of_eq,y.toNat_lt]
 | case3 x=>
  grind [sextets,octets,ofNat_toNat_of_eq]
 | case4=>rfl

theorem sextets_lt (bs:List UInt8):∀ value∈sextets bs,value<64:=by
 induction bs using sextets.induct with
 | case1 x y z rest ih=>
  grind [sextets,x.toNat_lt,y.toNat_lt,z.toNat_lt]
 | case2 x y=>
  have hx:=x.toNat_lt
  have hy:=y.toNat_lt
  intro value hv
  simp only[sextets,mem_cons,not_mem_nil,or_false] at hv
  omega
 | case3 x=>
  have hx:=x.toNat_lt
  intro value hv
  simp only[sextets,mem_cons,not_mem_nil,or_false] at hv
  omega
 | case4=>simp[sextets]

variable (e:Encoding)

theorem eq_pad_of_mem_padding {e:Encoding} {n:ℕ} {c:Char} (h:c∈e.padding n):c = '=' := by
 grind [Encoding.padding]

theorem isDigit_digit {value:ℕ} (h:value<64):e.isDigit (digit e.last value)=true:=by
 rw[Encoding.isDigit,(e.digits value h).1]
 rfl

theorem not_isDigit_pad:e.isDigit '=' = false:=by
 rw[Encoding.isDigit,e.pad]
 rfl

theorem isBreak_encode (bs:List UInt8):∀ c∈e.encode bs,isBreak c=false:=by
 intro c hc
 obtain hdig | hpad:=mem_append.mp hc
 · obtain ⟨value,hv,rfl⟩:=mem_map.mp hdig
   exact (e.digits value (sextets_lt bs value hv)).2
 · rw[eq_pad_of_mem_padding hpad]
   rfl

theorem all_digits {vals:List ℕ} (h:∀ value∈vals,value<64):
 ∀ c∈vals.map (digit e.last),e.isDigit c=true:=by
 grind [isDigit_digit,mem_map.mp]

theorem span_encode {ds:List Char} (h:∀ c∈ds,e.isDigit c=true) (n:ℕ):
 (ds++e.padding n).takeWhile e.isDigit=ds∧(ds++e.padding n).dropWhile e.isDigit=e.padding n:=by
 rw[takeWhile_append_of_pos h,dropWhile_append_of_pos h]
 cases hpad : e.padding n with
 | nil=>simp
 | cons c rest=>
  have hc:c = '=' := eq_pad_of_mem_padding (hpad▸mem_cons_self)
  subst hc
  simp[not_isDigit_pad]

theorem filterMap_digits {values:List ℕ} (h:∀ val1∈values,val1<64):
 (values.map (digit e.last)).filterMap (value? e.last)=values:=by
 induction values with
 | nil=>rfl
 | cons val1 values ih=>
  obtain ⟨hv,hvalu⟩:=forall_mem_cons.mp h
  rw[map_cons,filterMap_cons,(e.digits val1 hv).1,ih hvalu]

@[simp] theorem decode_encode (bytes:List UInt8):e.decode (e.encode bytes)=some bytes:=by
 have hlt:=sextets_lt bytes
 have hfil:(e.encode bytes).filter (fun c=>!isBreak c)=e.encode bytes:=by
  grind [isBreak_encode,filter_eq_self.mpr]
 obtain ⟨htake,hdrop⟩:=span_encode e (all_digits e hlt) (sextets bytes).length
 rw[Encoding.decode,hfil,Encoding.encode]
 simp only[htake,hdrop,length_map,if_true,filterMap_digits e hlt,octets_sextets]

theorem encode_injective:Function.Injective e.encode:=by
 intro a b h
 have hdec:=congrArg e.decode h
 simpa using hdec

theorem decode_eq_none {text:List Char} {c:Char} (hc:c∈text) (hbre:isBreak c=false)
 (hdig:e.isDigit c=false) (hpad:c ≠ '='):e.decode text=none:=by
 have hkept:c∈text.filter fun c=>!isBreak c:=mem_filter.mpr ⟨hc,by simp[hbre]⟩
 rw[Encoding.decode]
 generalize text.filter (fun c=>!isBreak c)=kept at hkept
 apply if_neg
 intro hrest
 have hsp:c∈kept.takeWhile e.isDigit++kept.dropWhile e.isDigit:=by
  rw[takeWhile_append_dropWhile]
  exact hkept
 grind [eq_pad_of_mem_padding,mem_append.mp,mem_takeWhile_imp]

end Base64
end BolterTrader.Foundations
