import BolterTrader.Exchange.Orders
import BolterTrader.Foundations.DecimalWhole
import BolterTrader.Foundations.Fallible
import BolterTrader.Foundations.PlainText

/-! Hyperliquid's price rule. -/
namespace BolterTrader.Hyperliquid
open List BolterTrader.Exchange BolterTrader.Foundations BolterTrader.Foundations.Fallible
open BolterTrader.Foundations.Decimal

def decimalPlaces (d:Decimal):ℕ:=
 let text:=d.toText.toList
 if '.' ∈ text then text.length-text.idxOf '.' - 1 else 0

def hlSignificantDigits (d:Decimal):ℕ:=
 let text:=d.abs.toText.toList
 let text:=if '.' ∈ text then dropTrailingZeros text else text
 ((text.filter (· ≠ '.')).dropWhile (· = '0')).length

def hlValidateLimitPrice (side:Side) (requested:Decimal) (priceDecimals:Int):Except String Decimal:=do
 refuse (requested.isPositive=false) "price must be positive"
 refuse (priceDecimals<0) "price decimals must be non-negative"
 refuse (side≠.buy∧side≠.sell) "side must be buy or sell"
 refuse (priceDecimals<decimalPlaces requested) "price has too many decimal places"
 if requested.equal requested.truncate=true∨hlSignificantDigits requested≤5 then return requested
 else .error "price has too many significant figures"

/-! ## The printed price -/

section
variable {d:Decimal} {places n:ℕ}

theorem decimalPlaces_eq (htext:d.toText=String.ofList (pointed places n)):
 decimalPlaces d=(fractionPart (pointed places n)).length:=by
 unfold decimalPlaces
 rw[htext,String.toList_ofList]
 rcases (plain_pointed places n).1.cases with ⟨hmem,-,hnil⟩ | ⟨hmem,hsplit⟩
 all_goals grind

variable (hvalue:d.value=n/10^places) (hfrac:¬∃ m : ℤ,d.value=m)
include hvalue hfrac

/-- The fraction of a printed price ends in no zero: without it the price would have a shorter text. -/
theorem fraction_end:∃ init last,fractionPart (pointed places n)=init++[last]∧last ≠ '0' := by
 rcases eq_nil_or_concat' (fractionPart (pointed places n)) with hnil | ⟨init,last,hlast⟩
 · refine absurd ⟨digitsOf (pointed places n),?_⟩ hfrac
   rw[hvalue,←plainValue_pointed,plainValue,hnil]
   simp
 · refine ⟨init,last,hlast,?_⟩
   rintro rfl
   have hdigits:digitsOf (pointed places n)=Nat.ofDigitChars 10 (wholePart (pointed places n)++init) 0*10:=by
    rw[digitsOf,hlast,←append_assoc]
    exact ofDigitChars_zeros _ 1
   have hshort:=(@pointed_shortest places n init.length
    (Nat.ofDigitChars 10 (wholePart (pointed places n)++init) 0) (by
     rw[←plainValue_pointed,plainValue,hdigits,hlast,length_append,length_singleton,pow_succ]
     push_cast
     rw[mul_div_mul_right _ _ (by norm_num)])).1
   grind

theorem significant_le_iff (htext:d.toText=String.ofList (pointed places n)) (count:ℕ):
 hlSignificantDigits d≤count ↔ digitsOf (pointed places n)<10^count:=by
 have habs:d.abs.toText=d.toText:=by
  rw[toText_eq_toText_iff,value_abs,abs_of_nonneg (by rw[hvalue]; positivity)]
 obtain ⟨hplain,-⟩:=plain_pointed places n
 obtain ⟨init,last,hlast,hne⟩:=fraction_end hvalue hfrac
 unfold hlSignificantDigits
 rw[habs,htext,String.toList_ofList]
 rcases hplain.cases with ⟨-,-,hnil⟩ | ⟨-,hsplit⟩
 · rw[hnil] at hlast
   exact absurd hlast.symm (by simp)
 have hdigits:=hplain.digits
 unfold digitsOf
 generalize wholePart (pointed places n)=whole,fractionPart (pointed places n)=fraction at hlast hsplit hdigits ⊢
 have hkept:dropTrailingZeros (whole ++ '.' :: fraction)=whole ++ '.' :: fraction:=by
  rw[hlast]
  simp[dropTrailingZeros,hne]
 have hfilter:(whole ++ '.' :: fraction).filter (· ≠ '.')=whole++fraction:=by
  rw[filter_append,filter_cons_of_neg (by simp),←filter_append,filter_eq_self]
  exact fun c hc=>decide_eq_true (ne_point (hdigits c hc))
 rw[hsplit]
 dsimp only
 rw[if_pos (by simp),hkept,hfilter,length_dropWhile_zeros_le_iff hdigits]

end

theorem places_le_iff {d:Decimal} (hpos:0<d.value) (count:ℕ):
 decimalPlaces d≤count ↔ ∃ m : ℤ,d.value*10^count=m:=by
 obtain ⟨places,n,htext,hvalue⟩:=toText_plain hpos.le
 rw[decimalPlaces_eq htext]
 constructor
 · intro hle
   have hsplit:(10:ℚ)^count=10^(fractionPart (pointed places n)).length *
    10^(count-(fractionPart (pointed places n)).length):=by rw[←pow_add,Nat.add_sub_cancel' hle]
   refine ⟨digitsOf (pointed places n)*10^(count-(fractionPart (pointed places n)).length),?_⟩
   rw[hvalue,←plainValue_pointed,plainValue,hsplit,←mul_assoc,div_mul_cancel₀ _ (by positivity)]
   push_cast
   rfl
 · rintro ⟨m,hm⟩
   have hnonneg:0≤ m:=by
    have:(0:ℚ)< m:=hm▸by positivity
    exact_mod_cast this.le
   obtain ⟨m,rfl⟩:=Int.eq_ofNat_of_zero_le hnonneg
   refine (@pointed_shortest places n count m ?_).1
   rw[←hvalue,eq_div_iff (by positivity),hm]
   rfl

theorem significant_iff {d:Decimal} (hpos:0<d.value) (hfrac:¬∃ m : ℤ,d.value=m) (count:ℕ):
 hlSignificantDigits d≤count ↔ ∃ m e:ℤ,|m|<10^count∧d.value=m*10^e:=by
 obtain ⟨places,n,htext,hvalue⟩:=toText_plain hpos.le
 rw[significant_le_iff hvalue hfrac htext]
 constructor
 · intro hlt
   refine ⟨digitsOf (pointed places n),-(fractionPart (pointed places n)).length,?_,?_⟩
   · rw[Nat.abs_cast]
     exact_mod_cast hlt
   · rw[hvalue,←plainValue_pointed,plainValue,zpow_neg,div_eq_mul_inv]
     rfl
 · rintro ⟨m,e,hm,heq⟩
   have hmpos:0< m:=by
    by_contra hneg
    have:(m:ℚ)≤0:=by exact_mod_cast not_lt.mp hneg
    exact absurd hpos (not_lt.mpr (heq▸mul_nonpos_of_nonpos_of_nonneg this (ten_zpow_pos e).le))
   obtain ⟨m,rfl⟩:=Int.eq_ofNat_of_zero_le hmpos.le
   -- a power of ten that is not negative would make the price whole
   obtain ⟨k,rfl⟩:∃ k:ℕ,e = -k:=by
    refine (Int.le_total e 0).elim (fun hle=>⟨e.natAbs,by omega⟩) fun hge=>absurd ⟨m*10^e.toNat,?_⟩ hfrac
    rw[heq]
    obtain ⟨e,rfl⟩:=Int.eq_ofNat_of_zero_le hge
    push_cast
    simp
   obtain ⟨-,hshort⟩:=@pointed_shortest places n k m (by
    rw[←hvalue,heq,zpow_neg,zpow_natCast,div_eq_mul_inv]
    rfl)
   rw[Nat.abs_cast] at hm
   have hm:m<10^count:=by exact_mod_cast hm
   exact (Nat.le_mul_of_pos_right _ (by positivity)).trans_lt (hshort▸hm)

/-- The price rule, as the venue states it. -/
def Quotable (price:ℚ) (priceDecimals:ℕ):Prop:=
 0<price∧(∃ m : ℤ,price*10^priceDecimals=m)∧
  ((∃ m : ℤ,price=m)∨∃ m e:ℤ,|m|<10^5∧price=m*10^e)

/-- Which limit prices Hyperliquid takes. -/
theorem limit_price_rule (side:Side) (price:Decimal) (priceDecimals:ℕ) (accepted:Decimal):
 hlValidateLimitPrice side price priceDecimals=.ok accepted ↔
  side≠.unset∧Quotable price.value priceDecimals∧accepted=price:=by
 have hside:(side≠.buy∧side≠.sell) ↔ side=.unset:=by cases side<;>decide
 have hpositive:price.isPositive=false ↔ ¬0<price.value:=by rw[←isPositive_iff,Bool.not_eq_true]
 have hgood:0<price.value→((price.equal price.truncate=true∨hlSignificantDigits price≤5) ↔
   ((∃ m : ℤ,price.value=m)∨∃ m e:ℤ,|m|<10^5∧price.value=m*10^e)):=by
  intro hpos
  rw[equal_truncate_iff]
  by_cases hwhole:∃ m : ℤ,price.value=m
  · grind
  · rw[significant_iff hpos hwhole]
 unfold hlValidateLimitPrice
 constructor
 · intro h
   obtain ⟨_,hpos,h⟩:=bind_eq_ok h
   have hpos:=not_not.mp (mt hpositive.mpr (refuse_eq_ok hpos))
   have h:=past h
   obtain ⟨_,hs,h⟩:=bind_eq_ok h
   obtain ⟨_,hplaces,h⟩:=bind_eq_ok h
   have hplaces:=Int.not_lt.mp (refuse_eq_ok hplaces)
   split at h
   next hdigits=>
    exact ⟨mt hside.mpr (refuse_eq_ok hs),⟨hpos,(places_le_iff hpos _).mp (by exact_mod_cast hplaces),
     (hgood hpos).mp hdigits⟩,(Except.ok.inj h).symm⟩
   next=>cases h
 · rintro ⟨hs,⟨hpos,hplaces,hdigits⟩,heq⟩
   have hplaces:=(places_le_iff hpos _).mpr hplaces
   rw[refuse_bind (mt hpositive.mp (not_not.mpr hpos)),refuse_bind (by omega),
    refuse_bind (by rwa[hside]),refuse_bind (by omega),if_pos ((hgood hpos).mpr hdigits),heq]
   rfl

end BolterTrader.Hyperliquid
