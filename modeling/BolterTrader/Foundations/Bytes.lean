import Mathlib.Data.Nat.Digits.Lemmas

/-! Byte strings as numbers, and as hexadecimal text. -/
namespace BolterTrader.Foundations.Bytes
open List

/-! ## Big-endian numbers -/

def toNat (bytes:List UInt8):ℕ:=bytes.foldl (fun value byte=>value*256+byte.toNat) 0
def ofNat (n:ℕ):List UInt8:=((Nat.digits 256 n).map UInt8.ofNat).reverse

/-! ## Hexadecimal text -/

def hexDigits:List Char:=['0','1','2','3','4','5','6','7','8','9','a','b','c','d','e','f']
def hexDigit (value:ℕ):Char:=hexDigits.getD value '0'

def hexValue? (c:Char):Option ℕ:=
 if '0' ≤ c∧c ≤ '9' then some (c.toNat - '0'.toNat)
 else if 'a' ≤ c∧c ≤ 'f' then some (c.toNat - 'a'.toNat+10)
 else if 'A' ≤ c∧c ≤ 'F' then some (c.toNat - 'A'.toNat+10)
 else none

def hexPair (byte:UInt8):List Char:=[hexDigit (byte.toNat/16),hexDigit (byte.toNat % 16)]
def toHex (bytes:List UInt8):String:=String.ofList (bytes.flatMap hexPair)

def hexBytes?:List Char→Option (List UInt8)
 | []=>some []
 | [_]=>none
 | high::low::rest=>do
  let high ← hexValue? high
  let low ← hexValue? low
  let rest ← hexBytes? rest
  return UInt8.ofNat (high*16+low)::rest

def ofHex? (text:String):Option (List UInt8):=hexBytes? text.toList

theorem hexValue?_hexDigit {value:ℕ} (h:value<16):hexValue? (hexDigit value)=some value:=by
 interval_cases value<;>rfl

theorem hexBytes?_flatMap (bytes:List UInt8):hexBytes? (bytes.flatMap hexPair)=some bytes:=by
 induction bytes with
 | nil=>rfl
 | cons byte rest ih=>
  have hlt:byte.toNat<256:=byte.toNat_lt
  have hhigh:byte.toNat/16<16:=by omega
  have hlow:byte.toNat % 16<16:=by omega
  have hbyte:UInt8.ofNat (byte.toNat/16*16+byte.toNat % 16)=byte:=by
   rw[Nat.div_add_mod',UInt8.ofNat_toNat]
  simp only[hexPair,flatMap_cons,cons_append,nil_append,hexBytes?,
   hexValue?_hexDigit hhigh,hexValue?_hexDigit hlow,ih,Option.bind_eq_bind,Option.bind_some,hbyte]
  rfl

@[simp] theorem ofHex?_toHex (bytes:List UInt8):ofHex? (toHex bytes)=some bytes:=by
 simp[ofHex?,toHex,hexBytes?_flatMap]

end BolterTrader.Foundations.Bytes
