import BolterTrader.Foundations.DecimalText

/-! Plain decimal numerals: digits with at most one point. -/
namespace BolterTrader.Foundations.Decimal
open List

def wholePart (text:List Char):List Char:=text.takeWhile (· ≠ '.')
def fractionPart (text:List Char):List Char:=(text.dropWhile (· ≠ '.')).drop 1
def digitsOf (text:List Char):ℕ:=Nat.ofDigitChars 10 (wholePart text++fractionPart text) 0

structure Plain (text:List Char):Prop where
 split:text=wholePart text∨text=wholePart text ++ '.' :: fractionPart text
 digits:∀ c∈wholePart text++fractionPart text,c.isDigit
 nonempty:wholePart text++fractionPart text≠[]

def plainValue (text:List Char):ℚ:=digitsOf text/10^(fractionPart text).length

section
variable {whole fraction:List Char}

theorem parts_pointed_text (h:∀ c∈whole,c.isDigit):
 wholePart (whole ++ '.' :: fraction)=whole∧fractionPart (whole ++ '.' :: fraction)=fraction:=by
 have hkept:∀ c∈whole,decide (c ≠ '.')=true:=by
  rintro c hc
  refine decide_eq_true ?_
  rintro rfl
  grind
 constructor
 · rw[wholePart,takeWhile_append_of_pos hkept]
   simp
 · rw[fractionPart,dropWhile_append_of_pos hkept]
   simp

theorem parts_whole_text (h:∀ c∈whole,c.isDigit):wholePart whole=whole∧fractionPart whole=[]:=by
 have hkept:∀ c∈whole,decide (c ≠ '.')=true:=by
  rintro c hc
  refine decide_eq_true ?_
  rintro rfl
  grind
 exact ⟨takeWhile_eq_self_iff.mpr hkept,congrArg (List.drop 1) (dropWhile_eq_nil_iff.mpr hkept)⟩

theorem ofDigitChars_zeros (digits:List Char) (count:ℕ):
 Nat.ofDigitChars 10 (digits++List.replicate count '0') 0=Nat.ofDigitChars 10 digits 0*10^count:=by
 rw[Nat.ofDigitChars_append,Nat.ofDigitChars_replicate_zero,mul_comm]

end

theorem ne_point {c:Char} (h:c.isDigit):c ≠ '.' := by
 rintro rfl
 exact absurd h (by decide)

theorem Plain.cases {text:List Char} (h:Plain text):
 '.' ∉ text∧wholePart text=text∧fractionPart text=[]∨
  '.' ∉ wholePart text∧text=wholePart text ++ '.' :: fractionPart text:=by
 have hwhole:∀ c∈wholePart text,c.isDigit:=fun c hc=>h.digits c (mem_append_left _ hc)
 refine h.split.imp (fun hsplit=>?_) fun hsplit=>⟨fun hmem=>ne_point (hwhole _ hmem) rfl,hsplit⟩
 grind [ne_point,parts_whole_text]

/-! ## The numeral of a scaled integer -/

theorem plain_pointed (places n:ℕ):Plain (pointed places n)∧(fractionPart (pointed places n)).length≤places∧
 n=digitsOf (pointed places n)*10^(places-(fractionPart (pointed places n)).length):=by
 obtain ⟨whole,fraction,hpoi,hpad,hne,hlen⟩:=pointed_parts places n
 have hdigits:∀ c∈whole++fraction,c.isDigit:=fun c hc=>isDigit_of_mem_padded (hpad▸mem_append_left _ hc)
 have hparts:wholePart (pointed places n)=whole∧fractionPart (pointed places n)=fraction:=by
  rw[hpoi]
  cases fraction with
  | nil=>exact parts_whole_text fun c hc=>hdigits c (mem_append_left _ hc)
  | cons=>exact parts_pointed_text fun c hc=>hdigits c (mem_append_left _ hc)
 rw[digitsOf,hparts.1,hparts.2]
 refine ⟨⟨?_,by rwa[hparts.1,hparts.2],by rw[hparts.1,hparts.2]; simp[hne]⟩,hlen,?_⟩
 all_goals grind [ofDigitChars_zeros,ofDigitChars_padded]

theorem plainValue_pointed (places n:ℕ):plainValue (pointed places n)=n/10^places:=by
 obtain ⟨-,hle,hn⟩:=plain_pointed places n
 rw[plainValue,div_eq_div_iff (by positivity) (by positivity)]
 have hten:(10:ℚ)^places=10^(places-(fractionPart (pointed places n)).length)*10^(fractionPart (pointed places n)).length:=by
  rw[←pow_add,Nat.sub_add_cancel hle]
 rw[hten,←mul_assoc]
 congr 1
 exact_mod_cast hn.symm

theorem value_scaled (n places:ℕ):(⟨n,-places⟩ : Decimal).value=n/10^places:=by
 simp[value,div_eq_mul_inv]

theorem toText_eq_pointed (n places:ℕ):(⟨n,-places⟩ : Decimal).toText=String.ofList (pointed places n):=by
 rw[toText_eq_signed (show -(places:ℤ)≤0 by omega),signed,if_neg (Int.not_lt.mpr (Int.natCast_nonneg n))]
 simp

/-- A numeral written for a number is the shortest one: any other way to write the number as a
scaled integer has at least its places and at least its digits. -/
theorem pointed_shortest {places n k m:ℕ} (h:(n:ℚ)/10^places=m/10^k):
 (fractionPart (pointed places n)).length≤k∧
  m=digitsOf (pointed places n)*10^(k-(fractionPart (pointed places n)).length):=by
 have hsame:(⟨n,-places⟩ : Decimal).toText=(⟨m,-k⟩ : Decimal).toText:=by
  rw[toText_eq_toText_iff,value_scaled,value_scaled,h]
 grind [toText_eq_pointed,plain_pointed,String.ofList_inj]

theorem toText_plain {d:Decimal} (h:0≤d.value):∃ places n:ℕ,d.toText=String.ofList (pointed places n)∧
 d.value=n/10^places:=by
 let scale:=min d.exponent 0
 obtain ⟨n,hn⟩:∃ n:ℕ,d.coefficientAt scale=n:=by
  refine Int.eq_ofNat_of_zero_le (Int.mul_nonneg ?_ (by positivity))
  by_contra hneg
  exact absurd h (not_le.mpr (mul_neg_of_neg_of_pos (by exact_mod_cast not_le.mp hneg) (ten_zpow_pos _)))
 have hsame:d.value=(⟨n,-(-scale).toNat⟩ : Decimal).value:=by
  grind [value_coefficientAt,value]
 grind [toText_eq_toText_iff,toText_eq_pointed,value_scaled]

/-! ## Digits and size -/

theorem digit_bounds {c:Char} (h:c.isDigit):c.toNat - '0'.toNat<10∧(c ≠ '0' → 1≤c.toNat - '0'.toNat):=by
 simp only[Char.isDigit,Bool.and_eq_true,decide_eq_true_eq,ge_iff_le,UInt32.le_iff_toNat_le] at h
 have hlow:48≤c.toNat:=h.1
 have hhigh:c.toNat≤57:=h.2
 have hzero: '0'.toNat=48:=rfl
 refine ⟨by omega,fun hne=>?_⟩
 have:c.toNat≠48:=fun h=>hne (Char.toNat_inj.mp h)
 omega

theorem ofDigitChars_bounds {digits:List Char} (h:∀ c∈digits,c.isDigit) (read:ℕ):
 read*10^digits.length≤Nat.ofDigitChars 10 digits read∧
  Nat.ofDigitChars 10 digits read<(read+1)*10^digits.length:=by
 induction digits generalizing read with
 | nil=>simp
 | cons c rest ih=>
  have hc:=(digit_bounds (h c mem_cons_self)).1
  rw[Nat.ofDigitChars_cons,length_cons]
  obtain ⟨hlow,hhigh⟩:=ih (fun c hc=>h c (mem_cons_of_mem _ hc)) (10*read+(c.toNat - '0'.toNat))
  generalize c.toNat - '0'.toNat=digit at hc hlow hhigh ⊢
  rw[pow_succ',←Nat.mul_assoc,←Nat.mul_assoc]
  exact ⟨(Nat.mul_le_mul_right _ (by omega)).trans hlow,hhigh.trans_le (Nat.mul_le_mul_right _ (by omega))⟩

theorem length_dropWhile_zeros_le_iff {digits:List Char} (h:∀ c∈digits,c.isDigit) (count:ℕ):
 (digits.dropWhile (· = '0')).length≤count ↔ Nat.ofDigitChars 10 digits 0<10^count:=by
 induction digits with
 | nil=>simp
 | cons c rest ih=>
  have hrest:∀ c∈rest,c.isDigit:=fun c hc=>h c (mem_cons_of_mem _ hc)
  by_cases hzero:c = '0'
  · subst hzero
    rw[dropWhile_cons_of_pos (by simp),ih hrest,Nat.ofDigitChars_cons]
    rfl
  · rw[dropWhile_cons_of_neg (by simpa using hzero),Nat.ofDigitChars_cons,length_cons]
    have hc:=(digit_bounds (h c mem_cons_self)).2 hzero
    obtain ⟨hlow,hhigh⟩:=ofDigitChars_bounds h 0
    obtain ⟨hlow',-⟩:=ofDigitChars_bounds hrest (10*0+(c.toNat - '0'.toNat))
    rw[Nat.ofDigitChars_cons,length_cons] at hhigh
    constructor
    · intro hle
      refine hhigh.trans_le ?_
      rw[Nat.zero_add,Nat.one_mul]
      exact Nat.pow_le_pow_right (by decide) hle
    · intro hlt
      by_contra hgt
      have hpow:10^count≤10^rest.length:=Nat.pow_le_pow_right (by decide) (by omega)
      have:10^rest.length≤(10*0+(c.toNat - '0'.toNat))*10^rest.length:=Nat.le_mul_of_pos_left _ (by omega)
      omega

end BolterTrader.Foundations.Decimal
