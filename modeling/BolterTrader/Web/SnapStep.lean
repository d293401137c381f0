import BolterTrader.Foundations.PlainText
import Mathlib.Data.Rat.Floor

/-! Snapping an order size to the step of its market (`format.ts`), on the text of the numbers:
both are read as integers at one scale, and the point is put back into the product. -/
namespace BolterTrader.Web
open List BolterTrader.Foundations BolterTrader.Foundations.Decimal

def decimals (step:List Char):ℕ:=(dropTrailingZeros (fractionPart step)).length

/-- The integer that `BigInt` reads from a text of digits, which may be empty. -/
def toUnits (scale:ℕ) (text:List Char):Option ℕ:=
 let fraction:=(fractionPart text).takeWhile (· ≠ '.')
 digitsFrom 0 (wholePart text++(fraction++List.replicate (scale-fraction.length) '0').take scale)

/-- The texts that `/^\d*\.?\d*$/` matches. -/
def isNumeral (text:List Char):Bool:=
 match text.dropWhile Char.isDigit with
 | []=>true
 | c :: rest=>c = '.' && rest.all Char.isDigit

def snapToStep (value step:String):Option String:=do
 let scale:=max (decimals step.toList) (decimals value.toList)
 if isNumeral value.toList=false∨value = ""∨value = "." then return ""
 let units ← toUnits scale value.toList
 let stepUnits ← toUnits scale step.toList
 if stepUnits=0 then return value
 let snapped:=units/stepUnits*stepUnits
 let text:=Nat.toDigits 10 snapped
 let text:=List.replicate (scale+1-text.length) '0' ++text
 let whole:=text.take (text.length-scale)
 let fraction:=if scale=0 then [] else dropTrailingZeros (text.drop (text.length-scale))
 return String.ofList (if fraction=[] then whole else whole ++ '.' :: fraction)

theorem toUnits_plain {text:List Char} {scale:ℕ} (h:Plain text) (hscale:decimals text≤ scale):
 ∃ units,toUnits scale text=some units∧plainValue text=units/10^scale:=by
 have hwhole:(fractionPart text).takeWhile (· ≠ '.')=fractionPart text:=by
  refine takeWhile_eq_self_iff.mpr fun c hc=>decide_eq_true (ne_point (h.digits c ?_))
  exact mem_append_right _ hc
 obtain ⟨zeros,hzeros⟩:=dropTrailingZeros_append (fractionPart text)
 have hlen:=congrArg length hzeros
 unfold decimals at hscale
 rw[length_append,length_replicate] at hlen
 -- what is padded or cut off at the end are zeros
 have htake:(fractionPart text++List.replicate (scale-(fractionPart text).length) '0').take scale =
   dropTrailingZeros (fractionPart text) ++
    List.replicate (scale-(dropTrailingZeros (fractionPart text)).length) '0':=by
  nth_rewrite 1 [←hzeros]
  rw[append_assoc,replicate_append_replicate,take_append,take_of_length_le hscale,take_replicate]
  congr 2
  omega
 have hdigits:∀ c∈wholePart text++(dropTrailingZeros (fractionPart text) ++
   List.replicate (scale-(dropTrailingZeros (fractionPart text)).length) '0'),c.isDigit:=by
  intro c hc
  rcases mem_append.mp hc with hc | hc
  · exact h.digits c (mem_append_left _ hc)
  rcases mem_append.mp hc with hc | hc
  · exact h.digits c (mem_append_right _ (hzeros▸mem_append_left _ hc))
  · rw[eq_of_mem_replicate hc]
    rfl
 have hread:digitsOf text=Nat.ofDigitChars 10 (wholePart text++dropTrailingZeros (fractionPart text)) 0*10^zeros:=by
  rw[←ofDigitChars_zeros,append_assoc,hzeros]
  rfl
 have hunits:toUnits scale text=digitsFrom 0 (wholePart text++(dropTrailingZeros (fractionPart text) ++
   List.replicate (scale-(dropTrailingZeros (fractionPart text)).length) '0')):=by
  rw[toUnits,hwhole,htake]
 refine ⟨_,hunits.trans (digitsFrom_eq 0 hdigits),?_⟩
 · rw[←append_assoc,ofDigitChars_zeros,plainValue,hread,div_eq_div_iff (by positivity) (by positivity)]
   push_cast
   have hpow:zeros+scale=scale-(dropTrailingZeros (fractionPart text)).length+(fractionPart text).length:=by omega
   rw[mul_assoc,mul_assoc,←pow_add,←pow_add,hpow]

theorem isNumeral_plain {text:List Char} (h:Plain text):isNumeral text=true:=by
 have hwhole:∀ c∈wholePart text,c.isDigit:=fun c hc=>h.digits c (mem_append_left _ hc)
 have hfraction:∀ c∈fractionPart text,c.isDigit:=fun c hc=>h.digits c (mem_append_right _ hc)
 unfold isNumeral
 rcases h.cases with ⟨-,hall,-⟩ | ⟨-,hsplit⟩
 all_goals grind [dropWhile_eq_nil_iff.mpr,dropWhile_append_of_pos,dropWhile_cons_of_neg]

theorem snapToStep_eq {value step:String} (hvalue:Plain value.toList) (hstep:Plain step.toList)
 (hpos:0<plainValue step.toList):∃ d:Decimal,snapToStep value step=some d.toText∧
  d.value=⌊plainValue value.toList/plainValue step.toList⌋*plainValue step.toList:=by
 obtain ⟨scale,hscale⟩:∃ scale,scale=max (decimals step.toList) (decimals value.toList):=⟨_,rfl⟩
 obtain ⟨units,hunits,hv⟩:=toUnits_plain hvalue (show decimals value.toList≤ scale by omega)
 obtain ⟨stepUnits,hsu,hs⟩:=toUnits_plain hstep (show decimals step.toList≤ scale by omega)
 have hne:stepUnits≠0:=by
  rintro rfl
  rw[hs] at hpos
  simp at hpos
 have haccept:¬(isNumeral value.toList=false∨value = ""∨value = "."):=by
  rintro (hnum | rfl | rfl)
  · rw[isNumeral_plain hvalue] at hnum
    cases hnum
  · exact hvalue.nonempty rfl
  · exact hvalue.nonempty rfl
 refine ⟨⟨(units/stepUnits*stepUnits:ℕ),-scale⟩,?_,?_⟩
 · have hfraction:∀ text:List Char,(if scale=0 then [] else dropTrailingZeros (text.drop (text.length-scale)))=
     dropTrailingZeros (text.drop (text.length-scale)):=by
    intro text
    split
    next hzero=>
     rw[hzero,Nat.sub_zero,drop_length]
     rfl
    next=>rfl
   rw[toText_eq_pointed,snapToStep]
   simp only[if_neg haccept,←hscale]
   show (toUnits scale value.toList >>= _)=_
   rw[hunits]
   show (toUnits scale step.toList >>= _)=_
   rw[hsu]
   show (if stepUnits=0 then _ else _)=_
   rw[if_neg hne,hfraction]
   simp only[pointed,padded,List.isEmpty_iff]
   rfl
 · rw[value_scaled,hv,hs,div_div_div_cancel_right₀ (by positivity),Rat.floor_natCast_div_natCast,
    ←Int.natCast_div,Int.cast_natCast,Nat.cast_mul,mul_div_assoc]

/-- A value is cut to the largest multiple of the step below it. -/
theorem snap_exact {value step:String} (hvalue:Plain value.toList) (hstep:Plain step.toList)
 (hpos:0<plainValue step.toList):∃ d:Decimal,snapToStep value step=some d.toText∧
  d.value=⌊plainValue value.toList/plainValue step.toList⌋*plainValue step.toList∧
  d.value≤plainValue value.toList∧plainValue value.toList<d.value+plainValue step.toList∧
  snapToStep d.toText step=some d.toText:=by
 obtain ⟨d,hsnap,hd⟩:=snapToStep_eq hvalue hstep hpos
 have hnonneg:0≤d.value:=by
  have hfloor:0≤⌊plainValue value.toList/plainValue step.toList⌋:=
   Int.floor_nonneg.mpr (div_nonneg (div_nonneg (Nat.cast_nonneg _) (by positivity)) hpos.le)
  rw[hd]
  exact mul_nonneg (by exact_mod_cast hfloor) hpos.le
 refine ⟨d,hsnap,hd,?_,?_,?_⟩
 · rw[hd,←le_div_iff₀ hpos]
   exact Int.floor_le _
 · rw[hd,←add_one_mul,←div_lt_iff₀ hpos]
   exact Int.lt_floor_add_one _
 · obtain ⟨places,n,htext,hn⟩:=toText_plain hnonneg
   have hplain:Plain d.toText.toList∧plainValue d.toText.toList=d.value:=by
    rw[htext,String.toList_ofList,plainValue_pointed,hn]
    exact ⟨(plain_pointed places n).1,rfl⟩
   grind [snapToStep_eq,toText_eq_toText_iff,Option.some_inj,mul_div_cancel_right₀,Int.floor_intCast]

theorem snapped_down:∃ d:Decimal,snapToStep "12.3456" "0.050" = some d.toText∧
 d.value≤plainValue "12.3456".toList∧snapToStep d.toText "0.050" = some d.toText:=by
 obtain ⟨d,hsnap,-,hle,-,hagain⟩:=@snap_exact "12.3456" "0.050"
  ⟨.inr (by decide),all_eq_true.mp (by decide),by decide⟩
  ⟨.inr (by decide),all_eq_true.mp (by decide),by decide⟩
  (div_pos (Nat.cast_pos.mpr (by decide)) (by positivity))
 exact ⟨d,hsnap,hle,hagain⟩

end BolterTrader.Web
