import BolterTrader.Foundations.DecimalArith
import Mathlib.Data.Rat.Floor

/-! What the decimals of a quotient, a floor and a ceiling are as numbers. -/
namespace BolterTrader.Foundations.Decimal

def neg (d:Decimal):Decimal:=⟨-d.coefficient,d.exponent⟩
def floor (d:Decimal):Decimal:=if 0≤d.exponent then d else ⟨d.coefficient/10^(-d.exponent).toNat,0⟩

def ceil (d:Decimal):Decimal:=
 if 0≤d.exponent then d
 else
  let scale:=10^(-d.exponent).toNat
  ⟨if d.coefficient % scale=0 then d.coefficient/scale else d.coefficient/scale+1,0⟩

@[simp] theorem value_neg (d:Decimal):d.neg.value = -d.value:=by
 simp[neg,value]

@[simp] theorem value_ofInt (n:Int):(ofInt n).value=n:=by
 simp[ofInt,value]

theorem value_neg_iff (d:Decimal):d.value<0 ↔ d.coefficient<0:=by
 rw[←not_le,←not_le,value,mul_nonneg_iff_of_pos_right (ten_zpow_pos _),Int.cast_nonneg_iff]

theorem isNegative_iff (d:Decimal):d.isNegative=true ↔ d.value<0:=by
 rw[value_neg_iff,isNegative,decide_eq_true_eq]

theorem value_abs (d:Decimal):d.abs.value = |d.value| := by
 rw[abs]
 split
 next h=>rw[abs_of_neg ((isNegative_iff d).mp h),←value_neg,neg]
 next h=>rw[abs_of_nonneg (not_lt.mp (mt (isNegative_iff d).mpr h))]

theorem value_pos_iff (d:Decimal):0<d.value ↔ 0<d.coefficient:=by
 rw[←isPositive_iff,isPositive,decide_eq_true_eq]

theorem value_eq_div {d:Decimal} (h:d.exponent<0):
 d.value=(d.coefficient : ℚ)/((10^(-d.exponent).toNat : ℕ):ℚ):=by
 have hexp:d.exponent = -((-d.exponent).toNat : ℤ):=by omega
 rw[value]
 conv_lhs=>rw[hexp]
 rw[zpow_neg,zpow_natCast,div_eq_mul_inv]
 push_cast
 rfl

theorem value_of_nonneg {d:Decimal} (h:0≤d.exponent):d.value=((d.coefficient*10^d.exponent.toNat : ℤ):ℚ):=by
 have hexp:d.exponent=(d.exponent.toNat : ℤ):=by omega
 rw[value]
 conv_lhs=>rw[hexp]
 rw[zpow_natCast]
 push_cast
 rfl

theorem value_floor (d:Decimal):d.floor.value=⌊d.value⌋ := by
 unfold floor
 split
 next h=>rw[value_of_nonneg h,Int.floor_intCast]
 next h=>
  rw[value_eq_div (not_le.mp h),Rat.floor_intCast_div_natCast]
  simp[value]

theorem value_ceil (d:Decimal):d.ceil.value=⌈d.value⌉ := by
 unfold ceil
 split
 next h=>rw[value_of_nonneg h,Int.ceil_intCast]
 next h=>
  have hsca:(0:ℤ)<10^(-d.exponent).toNat:=pow_pos (by norm_num) _
  rw[value_eq_div (not_le.mp h),Rat.ceil_intCast_div_natCast,Int.neg_ediv,Nat.cast_pow,Nat.cast_ofNat,
   Int.sign_eq_one_of_pos hsca]
  simp only[value,zpow_zero,mul_one,Int.dvd_iff_emod_eq_zero]
  split
  · simp
  · push_cast
    ring

/-! ## Quotients -/

theorem round_div (num:ℤ) {den:ℤ} (hden:0<den):
 round ((num:ℚ)/den)=if 2*(num % den)<den then num/den else num/den+1:=by
 have hpos:(0:ℚ)<den:=by exact_mod_cast hden
 have hdiv:(num:ℚ)/den=(num/den : ℤ)+(num % den : ℤ)/den:=by
  have hsp:(num:ℚ)=den*(num/den : ℤ)+(num % den : ℤ):=by exact_mod_cast (Int.mul_ediv_add_emod num den).symm
  field_simp
  exact hsp
 have hnon:(0:ℚ)≤(num % den : ℤ)/den:=div_nonneg (by exact_mod_cast Int.emod_nonneg num hden.ne') hpos.le
 have hlt:(num % den : ℤ)/(den:ℚ)<1:=(div_lt_one hpos).mpr (by exact_mod_cast Int.emod_lt_of_pos num hden)
 have hhalf:2*(num % den)<den ↔ (num % den : ℤ)/(den:ℚ)<1/2:=by
  rw[div_lt_iff₀ hpos,←Int.cast_lt (R:=ℚ)]
  grind
 rw[round_eq,hdiv,Int.floor_eq_iff]
 split
 next h=>
  grind
 next h=>
  grind [not_lt.mp]

def halfUnit:ℚ:=1/2/10^16
def round16 (x:ℚ):ℚ:=round (x*10^16)/10^16

theorem round16_nonneg {x:ℚ} (hx:0≤x):0≤round16 x:=by
 have hrou:0≤round (x*10^16):=by
  rw[round_eq]
  positivity
 exact div_nonneg (Int.cast_nonneg hrou) (by norm_num)

section
variable {a b:Decimal}

theorem div_eq (a:Decimal) (hb:0<b.value):∃ num den:ℤ,0<den∧a.value/b.value*10^16=num/den∧
 a.div b=if 2*(num.tmod den).natAbs<den.natAbs then ⟨num.tdiv den,-16⟩
  else if a.value<0 then ⟨num.tdiv den-1,-16⟩ else ⟨num.tdiv den+1,-16⟩:=by
 have hb':=(value_pos_iff b).mp hb
 have hten:(10:ℚ)≠0:=by norm_num
 have hcast:(b.coefficient : ℚ)≠0:=by exact_mod_cast hb'.ne'
 have hsign:a.coefficient.sign*b.coefficient.sign<0 ↔ a.value<0:=by
  rw[Int.sign_eq_one_of_pos hb',mul_one,Int.sign_neg_iff,value_neg_iff]
 have hsca:a.value/b.value*10^16=a.coefficient/b.coefficient*10^(a.exponent-b.exponent+16):=by
  rw[value,value,zpow_add₀ hten,zpow_sub₀ hten]
  field_simp
 simp only[div,hsign,hsca]
 by_cases hshi:0≤a.exponent-b.exponent+16
 · refine ⟨a.coefficient*10^(a.exponent-b.exponent+16).toNat,b.coefficient,hb',?_,by simp only[if_pos hshi]⟩
   obtain ⟨n,hn⟩:=Int.eq_ofNat_of_zero_le hshi
   grind [Int.toNat_natCast,zpow_natCast]
 · refine ⟨a.coefficient,b.coefficient*10^(-(a.exponent-b.exponent+16)).toNat,by positivity,?_,
    by simp only[if_neg hshi]⟩
   obtain ⟨n,hn⟩:=Int.eq_ofNat_of_zero_le (show 0 ≤ -(a.exponent-b.exponent+16) by omega)
   rw[hn,←neg_neg (a.exponent-b.exponent+16),hn]
   push_cast
   rw[Int.toNat_natCast,zpow_neg,zpow_natCast]
   field_simp

theorem value_div (ha:0≤a.value) (hb:0<b.value):
 (a.div b).value=round16 (a.value/b.value):=by
 obtain ⟨num,den,hden,hquote,hdiv⟩:=div_eq a hb
 have hnum:0≤num:=by
  have hnon:(0:ℚ)≤num/den:=hquote▸by positivity
  rw[le_div_iff₀ (by exact_mod_cast hden),zero_mul] at hnon
  exact_mod_cast hnon
 have hrest:=Int.emod_nonneg num hden.ne'
 rw[hdiv,round16,hquote,round_div num hden,if_neg ha.not_gt,Int.tmod_eq_emod_of_nonneg hnum,Int.tdiv_eq_ediv_of_nonneg hnum]
 by_cases hhalf:2*(num % den)<den
 · rw[if_pos (by omega),if_pos hhalf,value,zpow_neg,←div_eq_mul_inv]
   rfl
 · rw[if_neg (by omega),if_neg hhalf,value,zpow_neg,←div_eq_mul_inv]
   rfl

theorem value_div_nonpos (ha:a.value<0) (hb:0<b.value):(a.div b).value≤0:=by
 obtain ⟨num,den,hden,hquote,hdiv⟩:=div_eq a hb
 have hnum:num≤0:=by
  have hneg:(num:ℚ)/den≤0:=hquote▸mul_nonpos_of_nonpos_of_nonneg (div_neg_of_neg_of_pos ha hb).le (by norm_num)
  rw[div_le_iff₀ (by exact_mod_cast hden),zero_mul] at hneg
  exact_mod_cast hneg
 have hquot:=Int.tdiv_nonneg (Int.neg_nonneg_of_nonpos hnum) hden.le
 rw[Int.neg_tdiv] at hquot
 rw[hdiv,if_pos ha]
 split
 · exact mul_nonpos_of_nonpos_of_nonneg (Int.cast_nonpos.mpr (show num.tdiv den≤0 by omega)) (ten_zpow_pos _).le
 · exact mul_nonpos_of_nonpos_of_nonneg (Int.cast_nonpos.mpr (show num.tdiv den-1≤0 by omega)) (ten_zpow_pos _).le

theorem abs_value_div_sub_le (ha:0≤a.value) (hb:0<b.value):|(a.div b).value-a.value/b.value| ≤ halfUnit:=by
 obtain ⟨hleft,hrig⟩:=abs_le.mp (abs_sub_round (a.value/b.value*10^16))
 rw[value_div ha hb,halfUnit,round16,abs_le]
 constructor<;>linarith

theorem value_div_pos_iff (ha:0≤a.value) (hb:0<b.value):0<(a.div b).value ↔ halfUnit≤a.value/b.value:=by
 rw[value_div ha hb,halfUnit,round16,div_pos_iff_of_pos_right (by norm_num),Int.cast_pos,round_eq,Int.floor_pos,
  div_le_iff₀ (by norm_num)]
 grind

end

end BolterTrader.Foundations.Decimal
