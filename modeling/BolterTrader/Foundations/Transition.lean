import Mathlib.Data.Nat.Notation
import Mathlib.Data.Option.Basic

/-! Runs of a partial transition function, and the rule that carries an invariant
along the runs whose steps all meet a condition. -/
namespace BolterTrader.Foundations.Transition
open List

variable {σ ε:Type*} (step:σ→ε→Option σ)

def run:σ→List ε→Option σ
 | s,[]=>some s
 | s,e::rest=>(step s e).bind fun next=>run next rest

def Along (ok:σ→ε→Prop):σ→List ε→Prop
 | _,[]=>True
 | s,e::rest=>ok s e∧∀ next,step s e=some next→Along ok next rest

variable {step}

variable {s:σ}

@[simp] theorem run_nil (s:σ):run step s []=some s:=rfl

theorem run_cons_eq_some {t:σ} {e:ε} {rest:List ε}:
 run step s (e::rest)=some t ↔ ∃ next,step s e=some next∧run step next rest=some t:=
 Option.bind_eq_some_iff

theorem run_cons_of_step {next:σ} {e:ε} (h:step s e=some next) (rest:List ε):
 run step s (e::rest)=run step next rest:=by
 rw[run,h,Option.bind_some]

theorem run_append_eq_some {t:σ} {bef aft:List ε}:
 run step s (bef++aft)=some t ↔
  ∃ btw,run step s bef=some btw∧run step btw aft=some t:=by
 induction bef generalizing s with
 | nil=>simp
 | cons e rest ih=>
  grind [run_cons_eq_some,run_cons_eq_some.mpr,run_cons_eq_some.mp]

theorem Along.cons {ok:σ→ε→Prop} {s next:σ} {e:ε} {rest:List ε} (hstep:step s e=some next)
 (hok:ok s e) (hrest:Along step ok next rest):Along step ok s (e::rest):=by
 refine ⟨hok,?_⟩
 grind

instance Along.decidable {ok:σ→ε→Prop} [∀ s e,Decidable (ok s e)]:
  ∀ s events,Decidable (Along step ok s events)
 | _,[]=>.isTrue trivial
 | s,e::rest=>
  let _ : Decidable (∀ next,step s e=some next→Along step ok next rest):=
   match step s e with
   | none=>.isTrue fun _ hnext=>nomatch hnext
   | some next=>
    @decidable_of_iff _ (Along step ok next rest)
     ⟨fun hnext _ hother=>Option.some.inj hother▸hnext,fun hlater=>hlater next rfl⟩
     (Along.decidable next rest)
  instDecidableAnd

variable {ok:σ→ε→Prop}

theorem along_congr {ok':σ→ε→Prop} (h:∀ s e,ok s e ↔ ok' s e) (s:σ) (events:List ε):
 Along step ok s events ↔ Along step ok' s events:=by
 induction events generalizing s with
 | nil=>exact Iff.rfl
 | cons e rest ih=>exact and_congr (h s e) (forall₂_congr fun next _=>ih next)

variable {events:List ε}

theorem along_and {ok' : σ → ε → Prop} : Along step (fun s e => ok s e ∧ ok' s e) s events ↔
    Along step ok s events ∧ Along step ok' s events := by
  induction events generalizing s with
  | nil => simp [Along]
  | cons e rest ih =>
    grind [Along]

theorem along_of_invariant {ok':σ→ε→Prop} (inv:σ→Prop)
 (hkeep:∀ s e next,inv s→ ok s e→ step s e=some next→ inv next) (h:∀ s e,inv s→ ok s e→ ok' s e)
 (hs:inv s) (hok:Along step ok s events):Along step ok' s events:=by
 induction events generalizing s with
 | nil=>trivial
 | cons e rest ih=>
  exact ⟨h s e hs hok.1,fun next hstep=>ih (hkeep s e next hs hok.1 hstep) (hok.2 next hstep)⟩

theorem along_congr_of_invariant {ok':σ→ε→Prop} (inv:σ→Prop)
 (hkeep:∀ s e next,inv s→ ok s e→ step s e=some next→ inv next)
 (h:∀ s,∀ e∈events,inv s→(ok s e ↔ ok' s e)) (hs:inv s):
 Along step ok s events ↔ Along step ok' s events:=by
 induction events generalizing s with
 | nil=>exact Iff.rfl
 | cons e rest ih=>
  have hfst:=h s e mem_cons_self hs
  have hrest:=fun next (hnext:inv next)=>ih (fun t d hd=>h t d (mem_cons_of_mem e hd)) hnext
  constructor
  · rintro ⟨hok,hlat⟩
    refine ⟨hfst.mp hok,fun next hstep=>?_⟩
    grind
  · rintro ⟨hok',hlat⟩
    have hok:=hfst.mpr hok'
    refine ⟨hok,fun next hstep=>?_⟩
    grind

theorem invariant_along (inv:σ→Prop) (hstep:∀ s e next,inv s→ ok s e→ step s e=some next→ inv next) {t:σ}
 (hs:inv s) (hok:Along step ok s events) (hrun:run step s events=some t):inv t:=by
 induction events generalizing s with
 | nil=>
  cases hrun
  exact hs
 | cons e rest ih=>
  obtain ⟨next,hnext,hrest⟩:=run_cons_eq_some.mp hrun
  exact ih (hstep s e next hs hok.1 hnext) (hok.2 next hnext) hrest

theorem along_append {bef after:List ε}:
 Along step ok s (bef++after) ↔
  Along step ok s bef∧∀ t,run step s bef=some t→Along step ok t after:=by
 induction bef generalizing s with
 | nil=>simp[Along]
 | cons e rest ih=>
  grind [Along,run_cons_eq_some]

theorem along_true (s:σ) (events:List ε):Along step (fun _ _=>True) s events:=by
 induction events generalizing s with
 | nil=>trivial
 | cons e rest ih=>exact ⟨trivial,fun next _=>ih next⟩

theorem invariant (inv:σ→Prop) (hstep:∀ s e next,inv s→ step s e=some next→ inv next) {t:σ} (hs:inv s)
 (hrun:run step s events=some t):inv t:=
 invariant_along inv (fun s e next h _=>hstep s e next h) hs (along_true s events) hrun

theorem along_of_forall {ok:ε→Prop} (h:∀ e∈events,ok e) (s:σ):Along step (fun _ e=>ok e) s events:=by
 induction events generalizing s with
 | nil=>trivial
 | cons e rest ih=>refine ⟨h e mem_cons_self,fun next _=>ih (fun d hd=>h d (mem_cons_of_mem e hd)) next⟩

theorem exists_run_of_progress (inv goal:σ→Prop) (all1:ε→Prop) (msr:σ→ℕ)
 (hpro:∀ s,inv s → ¬goal s →
  ∃ e next,all1 e∧step s e=some next∧inv next∧msr next< msr s) (hs:inv s):
 ∃ events t,(∀ e∈events,all1 e)∧run step s events=some t∧inv t∧goal t:=by
 induction hn : msr s using Nat.strongRecOn generalizing s with
 | ind n ih=>
  by_cases hgoal:goal s
  · exact ⟨[],s,by simp,rfl,hs,hgoal⟩
  · obtain ⟨e,next,hall,hstep,hnext,hless⟩:=hpro s hs hgoal
    obtain ⟨events,t,heve,hrun,ht⟩:=ih (msr next) (hn▸hless) hnext rfl
    refine ⟨e::events,t,?_,run_cons_eq_some.mpr ⟨next,hstep,hrun⟩,ht⟩
    grind

end BolterTrader.Foundations.Transition
