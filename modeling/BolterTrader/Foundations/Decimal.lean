import BolterTrader.Foundations.GoText
import Mathlib.Algebra.Group.Int.Defs
import Mathlib.Algebra.Group.Nat.Defs

/-! Arbitrary-precision decimals: an integer coefficient and a power of ten. They stand for the
`shopspring/decimal` package, v1.4.0, that the source computes with. -/
namespace BolterTrader.Foundations

structure Decimal where
 coefficient:Int:=0
 exponent:Int:=0
 deriving DecidableEq

namespace Decimal

def zero:Decimal:=⟨0,1⟩
def isPositive (d:Decimal):Bool:=decide (0<d.coefficient)
def isNegative (d:Decimal):Bool:=decide (d.coefficient<0)
def isZero (d:Decimal):Bool:=decide (d.coefficient=0)

/-! ## Reading -/

def digit? (c:Char):Option ℕ:=if c.isDigit then some (c.toNat - '0'.toNat) else none

def digitsFrom (read:ℕ):List Char→Option ℕ
 | []=>some read
 | c::rest=>(digit? c).bind fun d=>digitsFrom (read*10+d) rest

def nat?:List Char→Option ℕ
 | []=>none
 | digits=>digitsFrom 0 digits

def int?:List Char→Option Int
 | '+' :: digits=>(nat? digits).map fun n=>(n:Int)
 | '-' :: digits=>(nat? digits).map fun n=>-(n:Int)
 | digits=>(nat? digits).map fun n=>(n:Int)

def fitsInt64 (n:Int):Bool:=decide (-9223372036854775808≤n∧n≤9223372036854775807)
def parseInt64? (s:String):Option Int:=(int? s.toList).filter fitsInt64
def parseInt64 (s:String):Int:=max (-9223372036854775808) (min 9223372036854775807 ((int? s.toList).getD 0))
def fitsInt32 (n:Int):Bool:=decide (-2147483648≤n∧n≤2147483647)

def exponent? (text:List Char):Option Int:=
 match text.dropWhile fun c=>c ≠ 'e' && c ≠ 'E' with
 | []=>some 0
 | _::rest=>(int? rest).filter fitsInt32

def ofString? (s:String):Option Decimal:=
 let mantissa:=s.toList.takeWhile fun c=>c ≠ 'e' && c ≠ 'E'
 let whole:=mantissa.takeWhile (· ≠ '.')
 let fraction:=(mantissa.dropWhile (· ≠ '.')).drop 1
 if fraction.contains '.' then none
 else (exponent? s.toList).bind fun explicit=>
  (int? (whole++fraction)).bind fun coefficient=>
   let exponent:=explicit-fraction.length
   if fitsInt32 exponent then some ⟨coefficient,exponent⟩ else none

/-! ## Writing -/

def dropTrailingZeros (digits:List Char):List Char:=(digits.reverse.dropWhile (· = '0')).reverse

def toText (d:Decimal):String:=
 if 0≤d.exponent then toString (d.coefficient*10^d.exponent.toNat)
 else
  let digits:=(toString d.coefficient.natAbs).toList
  let scale:=(-d.exponent).toNat
  let whole:=if scale<digits.length then digits.take (digits.length-scale) else ['0']
  let fraction:=dropTrailingZeros <|
   if scale<digits.length then digits.drop (digits.length-scale)
   else List.replicate (scale-digits.length) '0' ++ digits
  let number:=if fraction.isEmpty then whole else whole ++ '.' :: fraction
  String.ofList (if d.coefficient<0 then '-' :: number else number)

example : ofString? "-1.50e2" = some ⟨-150,0⟩:=by decide
example : (⟨-1500,-3⟩ : Decimal).toText="-1.5" := by decide

end Decimal
end BolterTrader.Foundations
