import BolterTrader.Foundations.DecimalRounding

/-! Decimals that stand for whole numbers: truncation, equality and the 64-bit integer part. -/
namespace BolterTrader.Foundations.Decimal

def whole (d:Decimal):Int:=
 if 0≤d.exponent then d.coefficient*10^d.exponent.toNat
 else d.coefficient.tdiv (10^(-d.exponent).toNat)

def truncate (d:Decimal):Decimal:=if 0≤d.exponent then d else ⟨d.whole,0⟩

def equal (a b:Decimal):Bool:=
 decide (a.coefficientAt (commonScale a b)=b.coefficientAt (commonScale a b))

theorem equal_iff (a b:Decimal):a.equal b=true ↔ a.value=b.value:=by
 have ha:commonScale a b≤a.exponent:=min_le_left _ _
 have hb:commonScale a b≤b.exponent:=min_le_right _ _
 have hten:=(ten_zpow_pos (commonScale a b)).ne'
 rw[←value_coefficientAt ha,←value_coefficientAt hb,mul_left_inj' hten]
 simp[equal]

theorem value_truncate (d:Decimal):d.truncate.value=d.whole:=by
 unfold truncate whole
 split
 next h=>exact value_of_nonneg h
 next=>simp[value]

theorem whole_eq {d:Decimal} {n:ℤ} (h:d.value=n):d.whole=n:=by
 unfold whole
 split
 next hexp=>
  rw[value_of_nonneg hexp] at h
  exact_mod_cast h
 next hexp=>
  rw[value_eq_div (not_le.mp hexp),div_eq_iff (by positivity)] at h
  have hcoef:d.coefficient=n*10^(-d.exponent).toNat:=by exact_mod_cast h
  rw[hcoef,Int.mul_tdiv_cancel _ (by positivity)]

theorem equal_truncate_iff (d:Decimal):d.equal d.truncate=true ↔ ∃ n : ℤ,d.value=n:=by
 grind [equal_iff,value_truncate,whole_eq]

theorem intPart_eq {d:Decimal} {n:ℤ} (h:d.value=n):d.intPart=Int64.ofInt n:=
 congrArg Int64.ofInt (whole_eq h)

theorem round16_of_whole {x:ℚ} {n:ℤ} (h:x*10^16=n):round16 x=x:=by
 rw[round16,h,round_intCast,←h,mul_div_cancel_right₀ x (by norm_num)]

/-! ## Quotients that keep their whole part -/

section
variable {q : ℚ} {p t : ℤ}

end

/-! ## Remainders -/

def mod (a b:Decimal):Decimal:=
 let scale:=commonScale a b
 ⟨(a.coefficientAt scale).tmod (b.coefficientAt scale),scale⟩

theorem tmod_eq_zero_iff (a b:Decimal):
 (a.coefficientAt (commonScale a b)).tmod (b.coefficientAt (commonScale a b))=0 ↔
  ∃ n : ℤ,a.value=n*b.value:=by
 have ha:commonScale a b≤a.exponent:=min_le_left _ _
 have hb:commonScale a b≤b.exponent:=min_le_right _ _
 have hten:=(ten_zpow_pos (commonScale a b)).ne'
 rw[←Int.dvd_iff_tmod_eq_zero,←value_coefficientAt ha,←value_coefficientAt hb]
 constructor
 · rintro ⟨n,hn⟩
   exact ⟨n,by rw[hn]; push_cast; ring⟩
 · rintro ⟨n,hn⟩
   rw[←mul_assoc,mul_left_inj' hten] at hn
   exact ⟨n,by rw[mul_comm]; exact_mod_cast hn⟩

theorem mod_isZero_iff (a b:Decimal):(a.mod b).isZero=true ↔ ∃ n : ℤ,a.value=n*b.value:=by
 rw[←tmod_eq_zero_iff,isZero,decide_eq_true_eq]
 rfl

end BolterTrader.Foundations.Decimal
