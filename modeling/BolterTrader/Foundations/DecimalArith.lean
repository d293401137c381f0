import BolterTrader.Foundations.Decimal
import Mathlib.Algebra.Order.Field.Power
import Mathlib.Tactic.Ring
import Mathlib.Tactic.Positivity

/-! Exact arithmetic on decimals and the rational number a decimal stands for. -/
namespace BolterTrader.Foundations.Decimal

def ofInt (n:Int):Decimal:=⟨n,0⟩
def coefficientAt (scale:Int) (d:Decimal):Int:=d.coefficient*10^(d.exponent-scale).toNat
def commonScale (a b:Decimal):Int:=min a.exponent b.exponent

def sub (a b:Decimal):Decimal:=
 ⟨a.coefficientAt (commonScale a b)-b.coefficientAt (commonScale a b),commonScale a b⟩

def add (a b:Decimal):Decimal:=
 ⟨a.coefficientAt (commonScale a b)+b.coefficientAt (commonScale a b),commonScale a b⟩

def mul (a b:Decimal):Decimal:=⟨a.coefficient*b.coefficient,a.exponent+b.exponent⟩
def abs (d:Decimal):Decimal:=if d.isNegative then ⟨-d.coefficient,d.exponent⟩ else d
def lessThan (a b:Decimal):Bool:=decide (a.coefficientAt (commonScale a b)<b.coefficientAt (commonScale a b))
def greaterThanOrEqual (a b:Decimal):Bool:=!a.lessThan b

def intPart (d:Decimal):Int64:=
 Int64.ofInt <|
  if 0≤d.exponent then d.coefficient*10^d.exponent.toNat
  else d.coefficient.tdiv (10^(-d.exponent).toNat)

def div (a b:Decimal):Decimal:=
 let shift:=a.exponent-b.exponent+16
 let num:=if 0≤ shift then a.coefficient*10^shift.toNat else a.coefficient
 let den:=if 0≤ shift then b.coefficient else b.coefficient*10^(-shift).toNat
 let quotient:=num.tdiv den
 if 2*(num.tmod den).natAbs<den.natAbs then ⟨quotient,-16⟩
 else if a.coefficient.sign*b.coefficient.sign<0 then ⟨quotient-1,-16⟩
 else ⟨quotient+1,-16⟩

example : (⟨2,0⟩ : Decimal).div ⟨3,0⟩=⟨6666666666666667,-16⟩:=by decide

/-! ## The number a decimal stands for -/

def value (d:Decimal):ℚ:=d.coefficient*10^d.exponent

theorem ten_zpow_pos (e:Int):(0:ℚ)<10^e:=zpow_pos (by norm_num) e

theorem value_coefficientAt {scale:Int} {d:Decimal} (h:scale≤d.exponent):
 (d.coefficientAt scale : ℚ)*10^scale=d.value:=by
 have hsp:d.exponent=((d.exponent-scale).toNat : Int)+scale:=by omega
 unfold coefficientAt value
 push_cast
 rw[mul_assoc,←zpow_natCast,←zpow_add₀ (by norm_num:(10:ℚ)≠0),←hsp]

@[simp] theorem value_mul (a b:Decimal):(a.mul b).value=a.value*b.value:=by
 simp only[mul,value,Int.cast_mul,zpow_add₀ (by norm_num:(10:ℚ)≠0)]
 ring

@[simp] theorem value_sub (a b:Decimal):(a.sub b).value=a.value-b.value:=by
 have ha:commonScale a b≤a.exponent:=min_le_left _ _
 have hb:commonScale a b≤b.exponent:=min_le_right _ _
 rw[←value_coefficientAt ha,←value_coefficientAt hb,←sub_mul]
 simp[sub,value]

theorem isPositive_iff (d:Decimal):d.isPositive=true ↔ 0<d.value:=by
 have hten:=ten_zpow_pos d.exponent
 simp[isPositive,value,hten]

theorem isZero_iff (d:Decimal):d.isZero=true ↔ d.value=0:=by
 have hten:=(ten_zpow_pos d.exponent).ne'
 simp[isZero,value,hten]

theorem lessThan_iff (a b:Decimal):a.lessThan b=true ↔ a.value<b.value:=by
 have ha:commonScale a b≤a.exponent:=min_le_left _ _
 have hb:commonScale a b≤b.exponent:=min_le_right _ _
 have hten:=ten_zpow_pos (commonScale a b)
 rw[←value_coefficientAt ha,←value_coefficientAt hb,mul_lt_mul_iff_left₀ hten]
 simp[lessThan]

theorem greaterThanOrEqual_iff (a b:Decimal):a.greaterThanOrEqual b=true ↔ b.value≤a.value:=by
 rw[greaterThanOrEqual,Bool.not_eq_true',←Bool.not_eq_true,lessThan_iff,not_lt]

end BolterTrader.Foundations.Decimal
