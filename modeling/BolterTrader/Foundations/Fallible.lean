import Mathlib.Data.List.Forall2

/-! Computations that stop at their first error. -/
namespace BolterTrader.Foundations.Fallible
open List

variable {ε α β:Type}

def refuse (bad:Prop) [Decidable bad] (err:ε):Except ε Unit:=if bad then .error err else .ok ()

def check:Option ε→Except ε Unit
 | some err=>.error err
 | none=>.ok ()

def returned (value:α):Option ε→Except ε α
 | some err=>.error err
 | none=>.ok value

def required (err:ε):Option α→Except ε α
 | some value=>.ok value
 | none=>.error err

variable {x:Except ε α} {f:α→Except ε β}

theorem bind_eq_ok {b:β} (h:(x >>= f)=.ok b):∃ a,x=.ok a∧f a=.ok b:=by
 cases x with
 | error=>cases h
 | ok a=>exact ⟨a,rfl,h⟩

theorem past {rest:Except ε β} {b:β} (h:(x >>= fun _=>rest)=.ok b):rest=.ok b:=by
 obtain ⟨_,-,hrest⟩:=bind_eq_ok h
 exact hrest

variable {err:ε}

theorem refuse_eq_ok {bad:Prop} [Decidable bad] {u:Unit} (h:refuse bad err=.ok u):¬bad:=by
 intro hbad
 simp[refuse,hbad] at h

theorem refuse_bind {bad:Prop} [Decidable bad] (h:¬bad) (f:Unit→Except ε β):
 (refuse bad err >>= f)=f ():=by
 rw[refuse,if_neg h]
 rfl

theorem check_eq_ok {err:Option ε} {u:Unit} (h:check err=.ok u):err=none:=by
 cases err with
 | none=>rfl
 | some=>cases h

theorem returned_eq_ok {value result:α} {err:Option ε} (h:returned value err=.ok result):
 err=none∧value=result:=by
 cases err with
 | none=>exact ⟨rfl,Except.ok.inj h⟩
 | some=>cases h

theorem required_eq_ok {x:Option α} {value:α} (h:required err x=.ok value):x=some value:=by
 cases x with
 | none=>cases h
 | some=>rw[Except.ok.inj h]

theorem map_eq_ok {f:α→β} {b:β} (h:x.map f=.ok b):∃ a,x=.ok a∧f a=b:=by
 cases x with
 | error=>cases h
 | ok a=>exact ⟨a,rfl,Except.ok.inj h⟩

theorem mapError_eq_ok {δ:Type} {f:ε→δ} {value:α} (h:x.mapError f=.ok value):x=.ok value:=by
 cases x with
 | error=>cases h
 | ok=>exact congrArg Except.ok (Except.ok.inj h)

variable {items:List α}

theorem mapM_eq_ok_iff {out:List β}:
 items.mapM f=.ok out ↔ List.Forall₂ (fun item b=>f item=.ok b) items out:=by
 induction items generalizing out with
 | nil=>
  rw[mapM_nil,forall₂_nil_left_iff]
  exact ⟨fun h=>(Except.ok.inj h).symm,fun h=>congrArg Except.ok h.symm⟩
 | cons item rest ih=>
  rw[mapM_cons,forall₂_cons_left_iff]
  constructor
  · intro h
    obtain ⟨b,hb,h⟩:=bind_eq_ok h
    obtain ⟨bs,hbs,h⟩:=bind_eq_ok h
    exact ⟨b,bs,hb,ih.mp hbs,(Except.ok.inj h).symm⟩
  · rintro ⟨b,bs,hb,hbs,rfl⟩
    rw[hb,ih.mpr hbs]
    rfl

theorem exists_of_mem_mapM {out:List β} (h:items.mapM f=.ok out) {b:β} (hb:b∈out):
 ∃ item∈items,f item=.ok b:=by
 have heach:=mapM_eq_ok_iff.mp h
 clear h
 induction heach with
 | nil=>cases hb
 | cons hitem _ ih=>
  grind

theorem exists_of_mapM_mem {out:List β} (h:items.mapM f=.ok out) {item:α} (hitem:item∈items):
 ∃ b∈out,f item=.ok b:=by
 have heach:=mapM_eq_ok_iff.mp h
 clear h
 induction heach with
 | nil=>cases hitem
 | cons hfst _ ih=>
  grind

theorem foldlM_eq_ok {f:β→α→Except ε β} {Held:α→β→Prop}
 (hnew:∀ {b item next},f b item=.ok next→Held item next)
 (hkeep:∀ {b item next oth},f b item=.ok next→Held oth b→Held oth next) {b result:β}
 (h:items.foldlM f b=.ok result):
 (∀ oth,Held oth b→Held oth result)∧∀ item∈items,Held item result:=by
 induction items generalizing b with
 | nil=>
  cases h
  grind
 | cons head rest ih=>
  rw[foldlM_cons] at h
  obtain ⟨next,hnext,h⟩:=bind_eq_ok h
  grind

/-! ## Where an error comes from -/

theorem bind_eq_error (h:(x >>= f)=.error err):x=.error err∨∃ a,x=.ok a∧f a=.error err:=by
 cases x with
 | error=>exact .inl (congrArg Except.error (Except.error.inj h))
 | ok a=>exact .inr ⟨a,rfl,h⟩

theorem refuse_eq_error {bad:Prop} [Decidable bad] {own:ε} (h:refuse bad own=.error err):bad∧own=err:=by
 by_cases hbad:bad
 · simp only[refuse,hbad,if_true] at h
   grind
 · simp[refuse,hbad] at h

theorem check_eq_error {own:Option ε} (h:check own=.error err):own=some err:=by
 cases own with
 | none=>cases h
 | some=>exact congrArg some (Except.error.inj h)

theorem required_eq_error {own:ε} {x:Option α} (h:required own x=.error err):own=err:=by
 cases x with
 | none=>exact Except.error.inj h
 | some=>cases h

theorem mapError_eq_error {δ:Type} {f:ε→δ} {err:δ} (h:x.mapError f=.error err):
 ∃ own,x=.error own∧f own=err:=by
 cases x with
 | error own=>exact ⟨own,rfl,Except.error.inj h⟩
 | ok=>cases h

end BolterTrader.Foundations.Fallible
