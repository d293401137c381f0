import BolterTrader.Foundations.DecimalArith

/-! The text of a decimal says which number it is: two decimals have one text
exactly when they have one value. -/
namespace BolterTrader.Foundations.Decimal
open List Option

/-! ## A natural number with a decimal point in it -/

def padded (places n:ℕ):List Char:=
 List.replicate (places+1-(Nat.toDigits 10 n).length) '0' ++ Nat.toDigits 10 n

def pointed (places n:ℕ):List Char:=
 let digits:=padded places n
 let whole:=digits.take (digits.length-places)
 let fraction:=dropTrailingZeros (digits.drop (digits.length-places))
 if fraction.isEmpty then whole else whole ++ '.' :: fraction

theorem lt_length_padded (pl n:ℕ):pl<(padded pl n).length:=by
 simp only[padded,length_append,length_replicate]
 omega

theorem isDigit_of_mem_padded {pl n:ℕ} {c:Char} (h:c∈padded pl n):c.isDigit:=by
 rcases mem_append.mp h with hzero | hdig
 · rw[eq_of_mem_replicate hzero]
   rfl
 · exact Nat.isDigit_of_mem_toDigits (by decide) (by decide) hdig

theorem padded_succ (pl n:ℕ):padded (pl+1) (n*10)=padded pl n++['0']:=by
 rcases Nat.eq_zero_or_pos n with rfl | hpos
 · simp[padded,replicate_succ']
 · have hdigi:Nat.toDigits 10 (n*10)=Nat.toDigits 10 n++['0']:=by
    rw[Nat.toDigits_of_base_le (by decide) (by omega)]
    simp
   simp[padded,hdigi]

theorem dropTrailingZeros_concat (digits:List Char):
 dropTrailingZeros (digits++['0'])=dropTrailingZeros digits:=by
 simp[dropTrailingZeros]

theorem pointed_succ (pl n:ℕ):pointed (pl+1) (n*10)=pointed pl n:=by
 have hlen:=lt_length_padded pl n
 have hle:(padded pl n).length-pl≤(padded pl n).length:=Nat.sub_le _ _
 simp[pointed,padded_succ,take_append_of_le_length hle,drop_append_of_le_length hle,dropTrailingZeros_concat]

theorem pointed_zero (n:ℕ):pointed 0 n=Nat.toDigits 10 n:=by
 have hpos:=@Nat.length_toDigits_pos 10 n
 have hpad:0+1-(Nat.toDigits 10 n).length=0:=by omega
 simp[pointed,padded,hpad,dropTrailingZeros]

theorem pointed_eq (pl n:ℕ):
 pointed pl n =
  let digits:=Nat.toDigits 10 n
  let whole:=if pl<digits.length then digits.take (digits.length-pl) else ['0']
  let fraction:=dropTrailingZeros <|
   if pl<digits.length then digits.drop (digits.length-pl)
   else List.replicate (pl-digits.length) '0' ++ digits
  if fraction.isEmpty then whole else whole ++ '.' :: fraction:=by
 by_cases hins:pl<(Nat.toDigits 10 n).length
 · have hpad:padded pl n=Nat.toDigits 10 n:=by
    rw[padded,Nat.sub_eq_zero_of_le hins,replicate_zero,nil_append]
   simp only[pointed,hpad,if_pos hins]
 · have hct:pl+1-(Nat.toDigits 10 n).length=pl-(Nat.toDigits 10 n).length+1:=by omega
   have hpad:padded pl n =
     '0' :: (List.replicate (pl-(Nat.toDigits 10 n).length) '0' ++ Nat.toDigits 10 n):=by
    rw[padded,hct,replicate_succ,cons_append]
   have hlen:(padded pl n).length-pl=1:=by
    grind
   simp only[pointed,hlen,if_neg hins]
   grind

/-! ## Reading the number back -/

theorem dropTrailingZeros_append (digits:List Char):
 ∃ zs,dropTrailingZeros digits++List.replicate zs '0' = digits:=by
 induction digits using List.reverseRecOn with
 | nil=>exact ⟨0,rfl⟩
 | append_singleton digits last ih=>
  by_cases hlast:last = '0'
  · obtain ⟨zs,hzer⟩:=ih
    refine ⟨zs+1,?_⟩
    rw[hlast,dropTrailingZeros_concat,replicate_succ',←append_assoc,hzer]
  · exact ⟨0,by simp[dropTrailingZeros,hlast]⟩

theorem pointed_parts (pl n:ℕ):∃ wh fr:List Char,
 pointed pl n=(if fr.isEmpty then wh else wh ++ '.' :: fr)∧
 padded pl n=wh++fr++List.replicate (pl-fr.length) '0'∧wh≠[]∧fr.length≤pl:=by
 have hlen:=lt_length_padded pl n
 obtain ⟨zeros,hzer⟩:=dropTrailingZeros_append ((padded pl n).drop ((padded pl n).length-pl))
 have hct:=congrArg List.length hzer
 simp only[length_append,length_replicate,length_drop] at hct
 refine ⟨_,_,rfl,?_,?_,by omega⟩
 · have hplac:pl-(dropTrailingZeros ((padded pl n).drop
    ((padded pl n).length-pl))).length=zeros:=by omega
   rw[hplac,append_assoc,hzer,take_append_drop]
 · grind [length_take,length_nil]

def unpoint (places:ℕ) (text:List Char):ℕ:=
 let fraction:=(text.dropWhile (· ≠ '.')).drop 1
 Nat.ofDigitChars 10 (text.takeWhile (· ≠ '.')++fraction++List.replicate (places-fraction.length) '0') 0

theorem ofDigitChars_padded (pl n:ℕ):Nat.ofDigitChars 10 (padded pl n) 0=n:=by
 rw[padded,Nat.ofDigitChars_append,Nat.ofDigitChars_replicate_zero,Nat.mul_zero]
 exact Nat.ofDigitChars_ten_toDigits

theorem unpoint_pointed (pl n:ℕ):unpoint pl (pointed pl n)=n:=by
 obtain ⟨wh,fraction,hpoi,hpad,-⟩:=pointed_parts pl n
 have hwh:∀ c∈wh,c ≠ '.' := by
  rintro c hc rfl
  have hdig: '.' ∈ padded pl n:=by simp[hpad,hc]
  exact absurd (isDigit_of_mem_padded hdig) (by decide)
 have hread:(pointed pl n).takeWhile (· ≠ '.')=wh∧
   ((pointed pl n).dropWhile (· ≠ '.')).drop 1=fraction:=by
  rw[hpoi]
  have hkept:∀ c∈wh,decide (c ≠ '.')=true:=fun c hc=>decide_eq_true (hwh c hc)
  cases fraction with
  | nil=>exact ⟨takeWhile_eq_self_iff.mpr hkept,congrArg (List.drop 1) (dropWhile_eq_nil_iff.mpr hkept)⟩
  | cons=>
   rw[if_neg (by simp),takeWhile_append_of_pos hkept,dropWhile_append_of_pos hkept]
   simp
 grind [unpoint,pointed,padded,ofDigitChars_padded]

theorem pointed_ne_minus (pl n:ℕ) (rest:List Char):pointed pl n ≠ '-' :: rest:=by
 obtain ⟨wh,fr,hpoi,hpad,hwh,-⟩:=pointed_parts pl n
 obtain ⟨head,wh,rfl⟩:=exists_cons_of_ne_nil hwh
 have hmem:head∈padded pl n:=by simp[hpad]
 have hdig:=isDigit_of_mem_padded hmem
 intro hmin
 have hfst:head = '-' := by
  grind
 rw[hfst] at hdig
 exact absurd hdig (by decide)

/-! ## Decimals -/

def signed (places:ℕ) (coefficient:Int):List Char:=
 if coefficient<0 then '-' :: pointed places coefficient.natAbs else pointed places coefficient.natAbs

theorem signed_injective (pl:ℕ):Function.Injective (signed pl):=by
 intro a b h
 grind [pointed,unpoint_pointed,signed,pointed_ne_minus]

theorem signed_succ (pl:ℕ) (coefficient:Int):signed (pl+1) (coefficient*10)=signed pl coefficient:=by
 have habs:(coefficient*10).natAbs=coefficient.natAbs*10:=Int.natAbs_mul _ _
 have hsign:coefficient*10<0 ↔ coefficient<0:=by omega
 simp only[signed,habs,pointed_succ,hsign]

theorem signed_add (pl more:ℕ) (coefficient:Int):
 signed (pl+more) (coefficient*10^more)=signed pl coefficient:=by
 induction more with
 | zero=>simp
 | succ more ih=>rw[←ih,pow_succ,←mul_assoc,←Nat.add_assoc,signed_succ]

theorem toString_int (n:Int):toString n=String.ofList (signed 0 n):=by
 have hrepr:toString n=n.repr:=rfl
 rw[hrepr,Int.repr_eq_if]
 unfold signed
 simp only[pointed_zero]
 by_cases hneg:n<0
 · rw[if_neg (by omega),if_pos hneg,Nat.repr_eq_ofList_toDigits,show (-n).toNat=n.natAbs by omega]
   exact (@String.ofList_append ['-'] _).symm
 · rw[if_pos (by omega),if_neg hneg,Nat.repr_eq_ofList_toDigits,show n.toNat=n.natAbs by omega]

theorem toText_eq_signed {d:Decimal} (h:d.exponent≤0):
 d.toText=String.ofList (signed (-d.exponent).toNat d.coefficient):=by
 by_cases hzero:0≤d.exponent
 · grind [toText,toString_int]
 · have hdigi:(toString d.coefficient.natAbs).toList=Nat.toDigits 10 d.coefficient.natAbs:=by
    rw[Nat.toString_eq_ofList_toDigits,String.toList_ofList]
   rw[toText,if_neg hzero,hdigi]
   simp only[signed,pointed_eq]

theorem toText_eq_signed_at {d:Decimal} {sc:Int} (hsca:sc≤d.exponent) (hzero:sc≤0):
 d.toText=String.ofList (signed (-sc).toNat (d.coefficientAt sc)):=by
 rcases Int.le_total d.exponent 0 with hneg | hpos
 · have hplac:(-sc).toNat=(-d.exponent).toNat+(d.exponent-sc).toNat:=by omega
   rw[toText_eq_signed hneg,coefficientAt,hplac,signed_add]
 · have hplac:(d.exponent-sc).toNat=d.exponent.toNat+(-sc).toNat:=by omega
   have hzePl:=signed_add 0 (-sc).toNat (d.coefficient*10^d.exponent.toNat)
   rw[toText,if_pos hpos,toString_int,coefficientAt,hplac,pow_add,←mul_assoc,←hzePl,Nat.zero_add]

theorem toText_eq_toText_iff (a b:Decimal):a.toText=b.toText ↔ a.value=b.value:=by
 let scale:=min (commonScale a b) 0
 have ha:scale≤a.exponent:=(min_le_left _ _).trans (min_le_left _ _)
 have hb:scale≤b.exponent:=(min_le_left _ _).trans (min_le_right _ _)
 have hzero:scale≤0:=min_le_right _ _
 rw[toText_eq_signed_at ha hzero,toText_eq_signed_at hb hzero,String.ofList_inj,(signed_injective _).eq_iff,
  ← value_coefficientAt ha,←value_coefficientAt hb,mul_left_inj' (ten_zpow_pos scale).ne',Int.cast_inj]

/-! ## Integers -/

theorem digitsFrom_eq (read:ℕ) {ds:List Char} (h:∀ c∈ds,c.isDigit):
 digitsFrom read ds=some (Nat.ofDigitChars 10 ds read):=by
 induction ds generalizing read with
 | nil=>rfl
 | cons c rest ih=>
  obtain ⟨hc,hrest⟩:=forall_mem_cons.mp h
  have hnext:=ih (read*10+(c.toNat - '0'.toNat)) hrest
  rw[digitsFrom,digit?,if_pos hc,bind_some,hnext,Nat.ofDigitChars_cons,Nat.mul_comm]

theorem isDigit_of_mem_toDigits {n:ℕ} {c:Char} (h:c∈Nat.toDigits 10 n):c.isDigit:=
 Nat.isDigit_of_mem_toDigits (by decide) (by decide) h

theorem isDigit_of_digitsFrom {ds:List Char} {read n:ℕ} (h:digitsFrom read ds=some n):
 ∀ c∈ds,c.isDigit:=by
 induction ds generalizing read with
 | nil=>nofun
 | cons c rest ih=>
  obtain ⟨d,hd,hrest⟩:=bind_eq_some_iff.mp h
  refine forall_mem_cons.mpr ⟨?_,ih hrest⟩
  grind [digit?]

theorem trimSpace_of_nat? {s:String} {n:ℕ} (h:nat? s.toList=some n):
 s≠""∧GoText.trimSpace s=s:=by
 refine ⟨?_,?_⟩
 · rintro rfl
   cases h
 · cases htext : s.toList with
   | nil=>exact GoText.trimSpace_eq_self (by simp[htext])
   | cons=>
    rw[htext] at h
    have hdigi:=isDigit_of_digitsFrom h
    grind [GoText.trimSpace_eq_self,GoText.isSpace_digit]

theorem nat?_toDigits (n:ℕ):nat? (Nat.toDigits 10 n)=some n:=by
 have hread:=digitsFrom_eq 0 fun c (hc:c∈Nat.toDigits 10 n)=>isDigit_of_mem_toDigits hc
 rw[Nat.ofDigitChars_ten_toDigits] at hread
 obtain ⟨head,rest,heq⟩:=exists_cons_of_ne_nil (Nat.toDigits_ne_nil (b:=10) (n:=n))
 rw[heq] at hread ⊢
 exact hread

theorem int?_toDigits (n:ℕ):int? (Nat.toDigits 10 n)=some (n:Int):=by
 have hread:=nat?_toDigits n
 unfold int?
 split
 next rest hsign=>
  have hmem: '+' ∈ Nat.toDigits 10 n:=hsign▸mem_cons_self
  exact absurd (isDigit_of_mem_toDigits hmem) (by decide)
 next rest hsign=>
  have hmem: '-' ∈ Nat.toDigits 10 n:=hsign▸mem_cons_self
  exact absurd (isDigit_of_mem_toDigits hmem) (by decide)
 next=>
  rw[hread]
  rfl

theorem int?_signed (n:Int):int? (signed 0 n)=some n:=by
 unfold signed
 rw[pointed_zero]
 split
 next hneg=>
  grind [int?,nat?_toDigits]
 grind [int?_toDigits]

theorem parseInt64?_toString {n:Int} (h:fitsInt64 n=true):parseInt64? (toString n)=some n:=by
 rw[parseInt64?,toString_int,String.toList_ofList,int?_signed,filter_some,if_pos h]

theorem isDigit_of_mem_signed {n:Int} {c:Char} (h:c∈signed 0 n):c = '-'∨c.isDigit:=by
 grind [signed,pointed_zero,isDigit_of_mem_toDigits,mem_cons.mp]

theorem trimSpace_toString_ne_empty (n:ℕ):GoText.trimSpace (toString (n:Int))≠"" := by
 obtain ⟨head,rest,hdigi⟩:=exists_cons_of_ne_nil (Nat.toDigits_ne_nil (b:=10) (n:=n))
 have htext:(toString (n:Int)).toList=head::rest:=by
  rw[toString_int,String.toList_ofList,signed,if_neg (by omega),pointed_zero,Int.natAbs_natCast,hdigi]
 grind [GoText.trimSpace_ne_empty,GoText.isSpace_digit,isDigit_of_mem_toDigits,mem_cons_self]

theorem toDigits_of_zero_cons {n:ℕ} {more:List Char} (h:Nat.toDigits 10 n = '0' :: more):more=[]:=by
 induction n using Nat.strong_induction_on generalizing more with
 | _ n ih=>
  by_cases hsma:n<10
  · grind [Nat.toDigits_of_lt_base]
  · have hsp:=Nat.toDigits_of_base_le (b:=10) (n:=n) (by decide) (by omega)
    obtain ⟨head,rest,heq⟩:=exists_cons_of_ne_nil (Nat.toDigits_ne_nil (b:=10) (n:=n/10))
    rw[hsp,heq,cons_append] at h
    rw[(cons.inj h).1] at heq
    have hnil:=ih (n/10) (by omega) heq
    have hv:=nat?_toDigits (n/10)
    rw[heq,hnil] at hv
    have hzero:0=n/10:=some.inj hv
    omega

theorem parseInt64_itoa {n:Int} (hzero:0≤n) (hfits:n≤9223372036854775807):
 parseInt64 (GoText.itoa n)=n:=by
 have htext:(GoText.itoa n).toList=Nat.toDigits 10 n.toNat:=by
  rw[GoText.itoa,toString_int,String.toList_ofList,signed,if_neg (by omega),pointed_zero]
  congr 1
  omega
 rw[parseInt64,htext,int?_toDigits,getD_some]
 omega

end BolterTrader.Foundations.Decimal
