import BolterTrader.Foundations.Collections
import BolterTrader.Foundations.Threads
import BolterTrader.Foundations.Transition

/-! The callback dispatcher of the websocket clients (`internal/wsdispatch`). -/
namespace BolterTrader.WsDispatch
open Foundations Foundations.Transition Foundations.Threads List Option

/-! ## The dispatcher -/

inductive Job where
 | hook (resume:ℕ)
 | callback (id:ℕ)
 deriving DecidableEq

inductive Phase where
 | idle
 | locked
 | checked
 | running
 deriving DecidableEq

/-- A call under way, with the revision that it read; `era` is the era in which it read it. -/
structure Thread where
 resume:Bool
 revision:UInt64
 era:ℕ
 jobs:List Job
 phase:Phase:=.idle

/-- The revision wraps as the `uint64` of the source does. `era` counts the resets and overflows and
wraps never; it and the fields after it are the history that the statements speak of. -/
structure Dispatcher where
 maxBuffer:ℕ:=0
 paused:Bool:=false
 buffer:List ℕ:=[]
 revision:UInt64:=0
 overflow:Bool:=false
 delivering:Bool:=false
 threads:List Thread:=[]
 era:ℕ:=0
 dispatched:ℕ:=0
 resumed:ℕ:=0
 admitted:List (ℕ×ℕ):=[]
 batches:List (ℕ×List ℕ):=[]
 started:List Job:=[]
 finished:List Job:=[]

inductive Event where
 | pause
 | reset
 | resume (hook:Bool)
 | dispatch
 | lock (thread:ℕ)
 | check (thread:ℕ)
 | start (thread:ℕ)
 | finish (thread:ℕ)
 | settle (thread:ℕ)
 deriving DecidableEq

def newDispatcher (maxBuffer:ℕ):Dispatcher:={maxBuffer}

def Dispatcher.reset (d:Dispatcher):Dispatcher:=
 {d with revision:=d.revision+1,era:=d.era+1,paused:=false,overflow:=false,buffer:=[]}

def Dispatcher.beginResume (d:Dispatcher) (hook:Bool):Dispatcher:=
 {d with
   buffer:=[]
   resumed:=d.resumed+1
   batches:=d.batches++if hook then [(d.resumed,d.buffer)] else []
   threads:=d.threads ++
    [{ resume:=true
       revision:=d.revision
       era:=d.era
       jobs:=(if hook then [.hook d.resumed] else [])++d.buffer.map .callback}]}

def Dispatcher.accept (d:Dispatcher):Dispatcher:=
 {d with dispatched:=d.dispatched+1,admitted:=d.admitted++[(d.dispatched,d.era)]}

def Dispatcher.dispatch (d:Dispatcher):Dispatcher:=
 if d.paused then
  if d.overflow then {d with dispatched:=d.dispatched+1}
  else if 0<d.maxBuffer∧d.maxBuffer≤d.buffer.length then
   {d with dispatched:=d.dispatched+1,revision:=d.revision+1,era:=d.era+1,overflow:=true,buffer:=[]}
  else {d.accept with buffer:=d.buffer++[d.dispatched]}
 else
  {d.accept with
    threads:=d.threads++[{resume:=false,revision:=d.revision,era:=d.era,jobs:=[.callback d.dispatched]}]}

def Dispatcher.put (d:Dispatcher) (k:ℕ) (t:Thread):Dispatcher:={d with threads:=d.threads.set k t}
def Dispatcher.leave (d:Dispatcher) (k:ℕ):Dispatcher:={d with threads:=d.threads.eraseIdx k}

def Dispatcher.check (d:Dispatcher) (k:ℕ) (t:Thread):Dispatcher:=
 if t.revision=d.revision then d.put k {t with phase:=.checked}
 else {d.leave k with delivering:=false}

def Dispatcher.start (d:Dispatcher) (k:ℕ) (t:Thread):Dispatcher:=
 {d.put k {t with phase:=.running} with started:=d.started++t.jobs.head?.toList}

def Dispatcher.finish (d:Dispatcher) (k:ℕ) (t:Thread):Dispatcher:=
 {if t.resume then d.put k {t with jobs:=t.jobs.tail,phase:=.idle} else d.leave k with
   delivering:=false
   finished:=d.finished++t.jobs.head?.toList}

def Dispatcher.settle (d:Dispatcher) (k:ℕ) (t:Thread):Dispatcher:=
 if t.revision≠d.revision then d.leave k
 else if d.buffer=[] then {d.leave k with paused:=false}
 else {d.put k {t with jobs:=d.buffer.map .callback} with buffer:=[]}

def Dispatcher.at (d:Dispatcher) (k:ℕ) (p:Thread→Bool):Option Thread:=d.threads[k]?.filter p

def step (d:Dispatcher):Event→Option Dispatcher
 | .pause=>some {d with paused:=true}
 | .reset=>some d.reset
 | .resume hook=>some (if d.paused=false∨d.overflow=true then d else d.beginResume hook)
 | .dispatch=>some d.dispatch
 | .lock k=>
  if d.delivering then none
  else (d.at k fun t=>t.phase=.idle∧t.jobs≠[]).map fun t=>
   {d.put k {t with phase:=.locked} with delivering:=true}
 | .check k=>(d.at k fun t=>t.phase=.locked).map (d.check k)
 | .start k=>(d.at k fun t=>t.phase=.checked).map (d.start k)
 | .finish k=>(d.at k fun t=>t.phase=.running).map (d.finish k)
 | .settle k=>(d.at k fun t=>t.resume∧t.phase=.idle∧t.jobs=[]).map (d.settle k)

/-! ## What a step can do -/

inductive Moves (d:Dispatcher):Event→Dispatcher→Prop where
 | pause : Moves d .pause {d with paused:=true}
 | reset : Moves d .reset d.reset
 | ignore {hook:Bool}:Moves d (.resume hook) d
 | resume {hook:Bool} (hpaused:d.paused=true) (hfits:d.overflow=false):Moves d (.resume hook) (d.beginResume hook)
 | refuse (hpaused:d.paused=true):Moves d .dispatch {d with dispatched:=d.dispatched+1}
 | overflow (hpaused:d.paused=true) (hfits:d.overflow=false):
  Moves d .dispatch
   {d with dispatched:=d.dispatched+1,revision:=d.revision+1,era:=d.era+1,overflow:=true,buffer:=[]}
 | buffer (hpaused:d.paused=true) (hroom:¬(0<d.maxBuffer∧d.maxBuffer≤d.buffer.length)):
  Moves d .dispatch {d.accept with buffer:=d.buffer++[d.dispatched]}
 | deliver (hopen:d.paused=false):
  Moves d .dispatch
   {d.accept with
     threads:=d.threads++[{resume:=false,revision:=d.revision,era:=d.era,jobs:=[.callback d.dispatched]}]}
 | lock {before after:List Thread} {t:Thread} (hthreads:d.threads=before++t::after)
  (hfree:d.delivering=false) (hphase:t.phase=.idle) (hjobs:t.jobs≠[]):
  Moves d (.lock before.length)
   {d with threads:=before ++ {t with phase:=.locked}::after,delivering:=true}
 | pass {before after:List Thread} {t:Thread} (hthreads:d.threads=before++t::after)
  (hphase:t.phase=.locked) (hcurrent:t.era=d.era):
  Moves d (.check before.length) {d with threads:=before ++ {t with phase:=.checked}::after}
 | fail {before after:List Thread} {t:Thread} (hthreads:d.threads=before++t::after)
  (hphase:t.phase=.locked) (hstale:t.era≠d.era):
  Moves d (.check before.length) {d with threads:=before++after,delivering:=false}
 | start {before after:List Thread} {t:Thread} (hthreads:d.threads=before++t::after)
  (hphase:t.phase=.checked):
  Moves d (.start before.length)
   {d with
     threads:=before ++ {t with phase:=.running}::after
     started:=d.started++t.jobs.head?.toList}
 | next {before after:List Thread} {t:Thread} (hthreads:d.threads=before++t::after)
  (hphase:t.phase=.running) (hresume:t.resume=true):
  Moves d (.finish before.length)
   {d with
     threads:=before ++ {t with jobs:=t.jobs.tail,phase:=.idle}::after
     delivering:=false
     finished:=d.finished++t.jobs.head?.toList}
 | last {before after:List Thread} {t:Thread} (hthreads:d.threads=before++t::after)
  (hphase:t.phase=.running) (hdispatch:t.resume=false):
  Moves d (.finish before.length)
   {d with
     threads:=before++after
     delivering:=false
     finished:=d.finished++t.jobs.head?.toList}
 | giveUp {before after:List Thread} {t:Thread} (hthreads:d.threads=before++t::after)
  (hresume:t.resume=true) (hphase:t.phase=.idle) (hjobs:t.jobs=[]) (hstale:t.era≠d.era):
  Moves d (.settle before.length) {d with threads:=before++after}
 | unpause {before after:List Thread} {t:Thread} (hthreads:d.threads=before++t::after)
  (hresume:t.resume=true) (hphase:t.phase=.idle) (hjobs:t.jobs=[]) (hcurrent:t.era=d.era)
  (hempty:d.buffer=[]):
  Moves d (.settle before.length) {d with threads:=before++after,paused:=false}
 | refill {before after:List Thread} {t:Thread} (hthreads:d.threads=before++t::after)
  (hresume:t.resume=true) (hphase:t.phase=.idle) (hjobs:t.jobs=[]) (hcurrent:t.era=d.era)
  (hfull:d.buffer≠[]):
  Moves d (.settle before.length)
   {d with threads:=before ++ {t with jobs:=d.buffer.map .callback}::after,buffer:=[]}

variable {d:Dispatcher}

theorem at_eq_some {k:ℕ} {p:Thread→Bool} {t:Thread} (h:d.at k p=some t):
 ∃ before after,d.threads=before++t::after∧before.length=k∧p t=true∧
  (∀ t',d.put k t' = {d with threads:=before++t'::after})∧
  d.leave k = {d with threads:=before++after}:=by
 obtain ⟨hget,hp⟩:=filter_eq_some_iff.mp h
 obtain ⟨before,after,hthr,hlen,hset,hera⟩:=exists_split hget
 exact ⟨before,after,hthr,hlen,hp,fun t'=>by rw[Dispatcher.put,hset],by rw[Dispatcher.leave,hera]⟩

def Event.internal:Event→Bool
 | .lock _ | .check _ | .start _ | .finish _ | .settle _=>true
 | .pause | .reset | .resume _ | .dispatch=>false

/-! ## The revision as a word -/

/-- The revision is the era as a word, and no thread is ahead of the dispatcher. -/
structure Dispatcher.Numbered (d : Dispatcher) : Prop where
  current : d.revision = UInt64.ofNat d.era
  threads : ∀ t ∈ d.threads, t.revision = UInt64.ofNat t.era ∧ t.era ≤ d.era

theorem numbered_new (maxBuffer : ℕ) : (newDispatcher maxBuffer).Numbered where
  current := rfl
  threads := by simp [newDispatcher]

theorem Dispatcher.Numbered.revision_eq_iff (h : d.Numbered) (hera : d.era < UInt64.size) {t : Thread}
    (ht : t ∈ d.threads) : t.revision = d.revision ↔ t.era = d.era := by
  obtain ⟨hrevision, hle⟩ := h.threads t ht
  rw [hrevision, h.current]
  grind [UInt64.toNat_ofNat_of_lt']

theorem moves_of_step {d' : Dispatcher} {event : Event} (hnum : d.Numbered) (hera : d.era < UInt64.size)
    (hstep : step d event = some d') : Moves d event d' := by
 cases event with
 | pause=>
  cases hstep
  exact .pause
 | reset=>
  cases hstep
  exact .reset
 | resume=>
  cases hstep
  split
  · exact .ignore
  · next h=>
     obtain ⟨hpau,hfits⟩:=not_or.mp h
     exact .resume (by simpa using hpau) (by simpa using hfits)
 | dispatch=>
  cases hstep
  unfold Dispatcher.dispatch
  split
  · next hpau=>
     split
     · exact .refuse hpau
     · next hover=>
       split
       · exact .overflow hpau (by simpa using hover)
       · next hroom=>exact .buffer hpau hroom
  · next hopen=>exact .deliver (by simpa using hopen)
 | lock=>
  obtain ⟨hfree,hmap⟩:=ite_none_left_eq_some.mp hstep
  obtain ⟨t,ht,rfl⟩:=map_eq_some_iff.mp hmap
  obtain ⟨before,after,hthr,rfl,hp,hput,-⟩:=at_eq_some ht
  rw[hput]
  obtain ⟨hph,hjobs⟩:=of_decide_eq_true hp
  exact .lock hthr (by simpa using hfree) hph hjobs
 | check=>
  obtain ⟨t,ht,rfl⟩:=map_eq_some_iff.mp hstep
  obtain ⟨before,after,hthr,rfl,hp,hput,hlea⟩:=at_eq_some ht
  unfold Dispatcher.check
  have hrev:=hnum.revision_eq_iff hera (mem_of_split hthr)
  rw[hput,hlea]
  split
  · next hcurr=>exact .pass hthr (of_decide_eq_true hp) (hrev.mp hcurr)
  · next hsta=>exact .fail hthr (of_decide_eq_true hp) (mt hrev.mpr hsta)
 | start=>
  obtain ⟨t,ht,rfl⟩:=map_eq_some_iff.mp hstep
  obtain ⟨before,after,hthr,rfl,hp,hput,-⟩:=at_eq_some ht
  unfold Dispatcher.start
  rw[hput]
  exact .start hthr (of_decide_eq_true hp)
 | finish=>
  obtain ⟨t,ht,rfl⟩:=map_eq_some_iff.mp hstep
  obtain ⟨before,after,hthr,rfl,hp,hput,hlea⟩:=at_eq_some ht
  unfold Dispatcher.finish
  rw[hput,hlea]
  by_cases hrs:t.resume=true
  · rw[if_pos hrs]
    exact .next hthr (of_decide_eq_true hp) hrs
  · rw[if_neg hrs]
    exact .last hthr (of_decide_eq_true hp) (by simpa using hrs)
 | settle=>
  obtain ⟨t,ht,rfl⟩:=map_eq_some_iff.mp hstep
  obtain ⟨before,after,hthr,rfl,hp,hput,hlea⟩:=at_eq_some ht
  obtain ⟨hrs,hph,hjobs⟩:=of_decide_eq_true hp
  unfold Dispatcher.settle
  have hrev:=hnum.revision_eq_iff hera (mem_of_split hthr)
  rw[hput,hlea]
  split
  · next hsta=>exact .giveUp hthr hrs hph hjobs (mt hrev.mpr hsta)
  · next hcurr=>
     have hsame:=hrev.mp (not_not.mp hcurr)
     split
     · next hnil=>exact .unpause hthr hrs hph hjobs hsame hnil
     · next hfull=>exact .refill hthr hrs hph hjobs hsame hfull

theorem era_le_of_step {d' : Dispatcher} {event : Event} (hstep : step d event = some d') :
    d.era ≤ d'.era := by
  cases event with
  | pause =>
    cases hstep
    exact Nat.le_refl _
  | reset =>
    cases hstep
    exact Nat.le_succ _
  | resume =>
    cases hstep
    split <;> exact Nat.le_refl _
  | dispatch =>
    cases hstep
    unfold Dispatcher.dispatch
    split_ifs
    · exact Nat.le_refl _
    · exact Nat.le_succ _
    · exact Nat.le_refl _
    · exact Nat.le_refl _
  | lock =>
    obtain ⟨-, hmap⟩ := ite_none_left_eq_some.mp hstep
    obtain ⟨t, -, rfl⟩ := map_eq_some_iff.mp hmap
    exact Nat.le_refl _
  | check =>
    obtain ⟨t, -, rfl⟩ := map_eq_some_iff.mp hstep
    unfold Dispatcher.check
    split <;> exact Nat.le_refl _
  | start =>
    obtain ⟨t, -, rfl⟩ := map_eq_some_iff.mp hstep
    exact Nat.le_refl _
  | finish =>
    obtain ⟨t, -, rfl⟩ := map_eq_some_iff.mp hstep
    unfold Dispatcher.finish
    split <;> exact Nat.le_refl _
  | settle =>
    obtain ⟨t, -, rfl⟩ := map_eq_some_iff.mp hstep
    unfold Dispatcher.settle
    split_ifs <;> exact Nat.le_refl _

theorem moves_threads {d' : Dispatcher} {event : Event} (hmoves : Moves d event d') :
    d.era ≤ d'.era ∧ ∀ u ∈ d'.threads, (u.era = d.era ∧ u.revision = d.revision) ∨
      ∃ t ∈ d.threads, t.era = u.era ∧ t.revision = u.revision := by
  have hmoved : ∀ {before after : List Thread} {t : Thread} (mid : List Thread),
      d.threads = before ++ t :: after →
      (∀ u ∈ mid, t.era = u.era ∧ t.revision = u.revision) →
      ∀ u ∈ before ++ (mid ++ after), (u.era = d.era ∧ u.revision = d.revision) ∨
        ∃ t ∈ d.threads, t.era = u.era ∧ t.revision = u.revision := by
    intro before after t mid hthreads hmid u hu
    rcases mem_replaced hu with hnew | hold
    · grind
    · grind
  have hjoined : ∀ new : Thread, new.era = d.era ∧ new.revision = d.revision →
      ∀ u ∈ d.threads ++ [new], (u.era = d.era ∧ u.revision = d.revision) ∨
        ∃ t ∈ d.threads, t.era = u.era ∧ t.revision = u.revision := by
    intro new hnew u hu
    rcases mem_append.mp hu with hold | hlast
    · grind
    · grind
  cases hmoves with
  | pause | ignore | refuse | buffer =>
    exact ⟨Nat.le_refl _, fun u hu => .inr ⟨u, hu, rfl, rfl⟩⟩
  | reset | overflow => exact ⟨Nat.le_succ _, fun u hu => .inr ⟨u, hu, rfl, rfl⟩⟩
  | resume | deliver => exact ⟨Nat.le_refl _, hjoined _ ⟨rfl, rfl⟩⟩
  | @lock before after t hthr | @pass before after t hthr | @start before after t hthr
  | @next before after t hthr | @refill before after t hthr =>
    grind
  | fail hthr | last hthr | giveUp hthr | unpause hthr =>
    grind

theorem Dispatcher.Numbered.moves {d' : Dispatcher} {event : Event} (h : d.Numbered)
    (hmoves : Moves d event d') : d'.Numbered := by
  obtain ⟨hle, hthreads⟩ := moves_threads hmoves
  refine ⟨?_, fun u hu => ?_⟩
  · cases hmoves with
    | reset | overflow =>
      show d.revision + 1 = UInt64.ofNat (d.era + 1)
      rw [h.current, UInt64.ofNat_add]
      rfl
    | _ => exact h.current
  · rcases hthreads u hu with ⟨hera, hrevision⟩ | ⟨t, ht, hera, hrevision⟩
    · exact ⟨by rw [hrevision, hera, h.current], hera.trans_le hle⟩
    · rw [← hera, ← hrevision]
      exact ⟨(h.threads t ht).1, (h.threads t ht).2.trans hle⟩

/-- What every move keeps holds at the end of a run whose last era is below `2 ^ 64`. -/
theorem invariant_of_moves (inv : Dispatcher → Prop) {ok : Dispatcher → Event → Prop}
    (hkeep : ∀ d event d', inv d → ok d event → Moves d event d' → inv d') {e : Dispatcher}
    {events : List Event} (hnum : d.Numbered) (hd : inv d) (hok : Along step ok d events)
    (hrun : run step d events = some e) (hera : e.era < UInt64.size) : inv e ∧ e.Numbered := by
  have hbound := invariant (fun s => d.era ≤ s.era)
    (fun _ _ _ hs hstep => hs.trans (era_le_of_step hstep)) (Nat.le_refl _) hrun
  induction events generalizing d with
  | nil =>
    cases hrun
    exact ⟨hd, hnum⟩
  | cons event rest ih =>
    obtain ⟨next, hstep, hrest⟩ := run_cons_eq_some.mp hrun
    have hmoves := moves_of_step hnum (hbound.trans_lt hera) hstep
    refine ih (hnum.moves hmoves) (hkeep d event next hd hok.1 hmoves) (hok.2 next hstep) hrest ?_
    exact invariant (fun s => next.era ≤ s.era)
      (fun _ _ _ hs hstep => hs.trans (era_le_of_step hstep)) (Nat.le_refl _) hrest

theorem internal_frame {d' : Dispatcher} {event : Event} (hint : event.internal = true)
    (hmoves : Moves d event d') : d'.admitted = d.admitted ∧ d'.era = d.era := by
  cases hmoves with
  | pause | reset | ignore | resume | refuse | overflow | buffer | deliver => cases hint
  | _ => exact ⟨rfl, rfl⟩

/-- What some resets in a row do. -/
theorem run_resets (d : Dispatcher) (n : ℕ) :
    run step d (replicate (n + 1) .reset) = some {d with
      revision := d.revision + UInt64.ofNat (n + 1), era := d.era + (n + 1), paused := false,
      overflow := false, buffer := []} := by
  induction n generalizing d with
  | zero => rfl
  | succ n ih =>
    have hsum : d.revision + 1 + UInt64.ofNat (n + 1) = d.revision + UInt64.ofNat (n + 2) := by
      rw [UInt64.add_assoc, UInt64.add_comm 1, UInt64.ofNat_add (n + 1) 1]
      rfl
    rw [replicate_succ, run_cons_of_step rfl, ih d.reset, Dispatcher.reset]
    grind

/-! ## One callback at a time -/

def Thread.delivers (t:Thread):Bool:=t.phase≠.idle
def Thread.runs (t:Thread):List Job:=if t.phase=.running then t.jobs.head?.toList else []

structure Dispatcher.Exclusive (d:Dispatcher):Prop where
 holder:d.threads.countP Thread.delivers=if d.delivering then 1 else 0
 history:d.started=d.finished++d.threads.flatMap Thread.runs
 jobs:∀ t∈d.threads,t.delivers=true→ t.jobs≠[]
 single:∀ t∈d.threads,t.resume=false → ∃ id,t.jobs=[.callback id]

theorem runs_of_idle {t:Thread} (h:t.delivers=false):t.runs=[]:=by
 grind [Thread.delivers,Thread.runs]

namespace Dispatcher.Exclusive

variable {d d':Dispatcher} {event:Event} {before after:List Thread} {t t':Thread}

theorem others_idle (h:d.Exclusive) (hthr:d.threads=before++t::after) (ht:t.delivers=true):
 (∀ u∈before++after,u.delivers=false)∧d.delivering=true:=by
 have hhol:=h.holder
 rw[hthr,countP_append,countP_cons,if_pos ht] at hhol
 have hdeli:d.delivering=true:=by
  grind
 rw[if_pos hdeli] at hhol
 have hnone:(before++after).countP Thread.delivers=0:=by
  rw[countP_append]
  omega
 grind

theorem runs_others (h:d.Exclusive) (hthr:d.threads=before++t::after) (ht:t.delivers=true):
 before.flatMap Thread.runs=[]∧after.flatMap Thread.runs=[]:=by
 have hidle:=(h.others_idle hthr ht).1
 grind [runs_of_idle,flatMap_eq_nil_iff.mpr,mem_append_left,mem_append_right]

theorem moved (h:d.Exclusive) (hthr:d.threads=before++t::after) (mid:List Thread)
 (hth':d'.threads=before++(mid++after))
 (hhol:(if d.delivering then 1 else 0)+mid.countP Thread.delivers =
  (if d'.delivering then 1 else 0)+if t.delivers then 1 else 0)
 (hhis:d'.started=d'.finished++(before++(mid++after)).flatMap Thread.runs)
 (hjobs:∀ u∈mid,u.delivers=true→ u.jobs≠[])
 (hsg:∀ u∈mid,u.resume=false → ∃ id,u.jobs=[.callback id]):d'.Exclusive:=by
 have hmem:∀ u∈d'.threads,u∈mid∨u∈d.threads:=by
  grind
 refine ⟨?_,by rw[hhis,hth'],?_,?_⟩
 · have hct:=h.holder
   grind
 · intro u hu hdel
   rcases hmem u hu with hnew | hold
   · exact hjobs u hnew hdel
   · exact h.jobs u hold hdel
 · intro u hu hd
   rcases hmem u hu with hnew | hold
   · exact hsg u hnew hd
   · exact h.single u hold hd

theorem waited (h:d.Exclusive) (hthr:d.threads=before++t::after) (mid:List Thread)
 (hth':d'.threads=before++(mid++after)) (ht:t.delivers=false)
 (hmid:∀ u∈mid,u.delivers=false) (hsg:∀ u∈mid,u.resume=false → ∃ id,u.jobs=[.callback id])
 (hdeli:d'.delivering=d.delivering) (hstd:d'.started=d.started)
 (hfin:d'.finished=d.finished):d'.Exclusive:=by
 refine h.moved hthr mid hth' ?_ ?_ (fun u hu hdel=>?_) hsg
 · grind [countP_eq_zero.mpr]
 · have hruns:mid.flatMap Thread.runs=[]:=flatMap_eq_nil_iff.mpr fun u hu=>runs_of_idle (hmid u hu)
   rw[hstd,hfin,h.history,hthr]
   simp only[flatMap_append,flatMap_cons,runs_of_idle ht,hruns,nil_append]
 · grind

theorem joined (h:d.Exclusive) (ht:t.phase=.idle) (hsg:t.resume=false → ∃ id,t.jobs=[.callback id])
 (hthr:d'.threads=d.threads++[t]) (hdeli:d'.delivering=d.delivering)
 (hstd:d'.started=d.started) (hfin:d'.finished=d.finished):d'.Exclusive:=by
 have hidle:t.delivers=false:=by simp[Thread.delivers,ht]
 refine ⟨?_,?_,?_,?_⟩
 · rw[hthr,hdeli,countP_append,h.holder]
   simp[hidle]
 · rw[hthr,hstd,hfin,h.history]
   simp[runs_of_idle hidle]
 · intro u hu hdel
   rw[hthr,mem_append,mem_singleton] at hu
   rcases hu with hold | rfl
   · exact h.jobs u hold hdel
   · grind
 · intro u hu hd
   rw[hthr,mem_append,mem_singleton] at hu
   rcases hu with hold | rfl
   · exact h.single u hold hd
   · exact hsg hd

theorem moves (h:d.Exclusive) (hmv:Moves d event d'):d'.Exclusive:=by
 cases hmv with
 | pause | reset | ignore | refuse | overflow | buffer=>exact ⟨h.holder,h.history,h.jobs,h.single⟩
 | resume=>exact h.joined rfl (fun hd=>absurd hd (by simp)) rfl rfl rfl rfl
 | deliver=>exact h.joined rfl (fun _=>⟨d.dispatched,rfl⟩) rfl rfl rfl rfl
 | @lock before after t hthr hfree hph hjobs=>
  refine h.moved hthr [{t with phase:=.locked}] rfl ?_ ?_ ?_ ?_
  · simp[hfree,hph,Thread.delivers]
  · show d.started=_
    rw[h.history,hthr]
    simp[hph,Thread.runs]
  · simpa using fun _=>hjobs
  · simpa using h.single t (mem_of_split hthr)
 | @pass before after t hthr hph=>
  have hdel:t.delivers=true:=by simp[Thread.delivers,hph]
  refine h.moved hthr [{t with phase:=.checked}] rfl ?_ ?_ ?_ ?_
  · simp[hph,Thread.delivers]
  · show d.started=_
    rw[h.history,hthr]
    simp[Thread.runs,hph]
  · simpa using fun _=>h.jobs t (mem_of_split hthr) hdel
  · simpa using h.single t (mem_of_split hthr)
 | @fail before after t hthr hph=>
  have hdel:t.delivers=true:=by simp[Thread.delivers,hph]
  refine h.moved hthr [] rfl ?_ ?_ (by simp) (by simp)
  · simp[hdel,(h.others_idle hthr hdel).2]
  · show d.started=_
    rw[h.history,hthr]
    simp[Thread.runs,hph]
 | @start before after t hthr hph=>
  have hdel:t.delivers=true:=by simp[Thread.delivers,hph]
  obtain ⟨hbef,haf⟩:=h.runs_others hthr hdel
  refine h.moved hthr [{t with phase:=.running}] rfl ?_ ?_ ?_ ?_
  · simp[hph,Thread.delivers]
  · show d.started++_=_
    rw[h.history,hthr]
    simp[Thread.runs,hph,hbef,haf]
  · simpa using fun _=>h.jobs t (mem_of_split hthr) hdel
  · simpa using h.single t (mem_of_split hthr)
 | @next before after t hthr hph hrs=>
  have hdel:t.delivers=true:=by simp[Thread.delivers,hph]
  obtain ⟨hbef,haf⟩:=h.runs_others hthr hdel
  refine h.moved hthr [{t with jobs:=t.jobs.tail,phase:=.idle}] rfl ?_ ?_ ?_ ?_
  · simp[hph,Thread.delivers,(h.others_idle hthr hdel).2]
  · show d.started=_
    rw[h.history,hthr]
    simp[Thread.runs,hph,hbef,haf]
  · simp[Thread.delivers]
  · simp[hrs]
 | @last before after t hthr hph=>
  have hdel:t.delivers=true:=by simp[Thread.delivers,hph]
  obtain ⟨hbef,haf⟩:=h.runs_others hthr hdel
  refine h.moved hthr [] rfl ?_ ?_ (by simp) (by simp)
  · simp[hdel,(h.others_idle hthr hdel).2]
  · show d.started=_
    rw[h.history,hthr]
    simp[Thread.runs,hph,hbef,haf]
 | giveUp hthr hrs hph | unpause hthr hrs hph=>
  exact h.waited hthr [] rfl (by simp[Thread.delivers,hph]) (by simp) (by simp) rfl rfl rfl
 | @refill before after t hthr hrs hph=>
  exact h.waited hthr [{t with jobs:=d.buffer.map .callback}] rfl (by simp[Thread.delivers,hph])
   (by simp[Thread.delivers,hph]) (by simp[hrs]) rfl rfl rfl

end Dispatcher.Exclusive

/-! ## Where a callback is -/

def Job.callback?:Job→Option ℕ
 | .hook _=>none
 | .callback id=>some id

def Thread.callbacks (t:Thread):List ℕ:=
 (if t.phase=.running then t.jobs.tail else t.jobs).filterMap Job.callback?

def Dispatcher.begun (d:Dispatcher):List ℕ:=d.started.filterMap Job.callback?
def Dispatcher.ids (d:Dispatcher):List ℕ:=d.admitted.map Prod.fst

def Dispatcher.places (d:Dispatcher) (id:ℕ):ℕ:=
 d.begun.count id+(d.threads.flatMap Thread.callbacks).count id+d.buffer.count id

structure Dispatcher.Tracked (d:Dispatcher):Prop where
 stamped:∀ t∈d.threads,t.era≤d.era
 fresh:∀ p∈d.admitted,p.1<d.dispatched∧p.2≤d.era
 distinct:d.ids.Nodup
 placed:∀ id,d.places id≤d.ids.count id

section Places

variable {d d':Dispatcher} {event:Event} {t:Thread}

theorem callbacks_of_waiting (h:t.phase≠.running):t.callbacks=t.jobs.filterMap Job.callback?:=by
 simp[Thread.callbacks,h]

theorem callbacks_of_running (h:t.phase=.running):t.callbacks=t.jobs.tail.filterMap Job.callback?:=by
 simp[Thread.callbacks,h]

theorem callbacks_start (t:Thread):
 t.jobs.filterMap Job.callback? =
  t.jobs.head?.toList.filterMap Job.callback?++t.jobs.tail.filterMap Job.callback?:=by
 rw[←filterMap_append]
 cases t.jobs<;>rfl

theorem filterMap_callbacks (ids:List ℕ):(ids.map Job.callback).filterMap Job.callback?=ids:=by
 rw[filterMap_map]
 exact filterMap_some

theorem callbacks_batch (hook:Bool) (resume:ℕ) (buffer:List ℕ):
 ((if hook then [Job.hook resume] else [])++buffer.map Job.callback).filterMap Job.callback?=buffer:=by
 rw[filterMap_append,filterMap_callbacks]
 cases hook<;>rfl

def Dispatcher.Carries (d d':Dispatcher):Prop:=∀ id,d'.places id+d.ids.count id≤d.places id+d'.ids.count id

theorem carries_moved {before after:List Thread} (hthr:d.threads=before++t::after) (mid:List Thread)
 (hth':d'.threads=before++(mid++after)) (hids:d'.ids=d.ids)
 (hplac:∀ id,d'.begun.count id+(mid.flatMap Thread.callbacks).count id+d'.buffer.count id ≤
  d.begun.count id+t.callbacks.count id+d.buffer.count id):d.Carries d':=by
 intro id
 grind [Dispatcher.places]

theorem carries_kept {before after:List Thread} (hthr:d.threads=before++t::after) (mid:List Thread)
 (hth':d'.threads=before++(mid++after)) (hids:d'.ids=d.ids) (hbg:d'.begun=d.begun)
 (hbuf:d'.buffer=d.buffer) (hcal:mid.flatMap Thread.callbacks=t.callbacks):
 d.Carries d':=
 carries_moved hthr mid hth' hids fun id=>by rw[hbg,hbuf,hcal]

theorem carries_moves (hmv:Moves d event d'):d.Carries d':=by
 cases hmv with
 | pause | ignore | refuse=>exact fun id=>Nat.le_refl _
 | reset | overflow=>
  intro id
  simp only[Dispatcher.places,Dispatcher.begun,Dispatcher.ids,Dispatcher.reset,count_nil]
  omega
 | resume=>
  intro id
  simp only[Dispatcher.places,Dispatcher.begun,Dispatcher.ids,Dispatcher.beginResume,count_nil,
   flatMap_append,flatMap_singleton,count_append,Thread.callbacks,reduceCtorEq,if_false,
   callbacks_batch]
  omega
 | buffer=>
  intro id
  simp only[Dispatcher.places,Dispatcher.begun,Dispatcher.ids,Dispatcher.accept,map_append,
   count_append,map_singleton]
  omega
 | deliver=>
  have hnew:([Job.callback d.dispatched].filterMap Job.callback?)=[d.dispatched]:=rfl
  intro id
  simp only[Dispatcher.places,Dispatcher.begun,Dispatcher.ids,Dispatcher.accept,map_append,
   count_append,map_singleton,flatMap_append,flatMap_singleton,Thread.callbacks,
   reduceCtorEq,if_false,hnew]
  omega
 | @lock before after t hthr hfree hph=>
  exact carries_kept hthr [{t with phase:=.locked}] rfl rfl rfl rfl (by simp[Thread.callbacks,hph])
 | @pass before after t hthr hph=>
  exact carries_kept hthr [{t with phase:=.checked}] rfl rfl rfl rfl (by simp[Thread.callbacks,hph])
 | fail hthr | last hthr | giveUp hthr | unpause hthr=>
  exact carries_moved hthr [] rfl rfl (by simp[Dispatcher.begun])
 | @start before after t hthr hph=>
  refine carries_moved hthr [{t with phase:=.running}] rfl rfl fun id=>?_
  have hwt:=callbacks_of_waiting (show t.phase≠.running by rw[hph]; decide)
  rw[hwt,callbacks_start]
  simp only[Dispatcher.begun,filterMap_append,flatMap_singleton,Thread.callbacks,if_true,count_append]
  omega
 | @next before after t hthr hph=>
  exact carries_kept hthr [{t with jobs:=t.jobs.tail,phase:=.idle}] rfl rfl rfl rfl
   (by simp[Thread.callbacks,hph])
 | @refill before after t hthr hrs hph hjobs hcurr hfull=>
  refine carries_moved hthr [{t with jobs:=d.buffer.map .callback}] rfl rfl fun id=>?_
  simp only[Dispatcher.begun,flatMap_singleton,Thread.callbacks,hph,reduceCtorEq,if_false,
   filterMap_callbacks,count_nil]
  omega

theorem admitted_moves (hmv:Moves d event d'):
 (d'.admitted=d.admitted∧d.dispatched≤d'.dispatched)∨
  (d'.admitted=d.admitted++[(d.dispatched,d.era)]∧d'.dispatched=d.dispatched+1):=by
 cases hmv with
 | buffer | deliver=>exact .inr ⟨rfl,rfl⟩
 | refuse | overflow=>exact .inl ⟨rfl,Nat.le_succ _⟩
 | _=>exact .inl ⟨rfl,Nat.le_refl _⟩

theorem Dispatcher.Tracked.moves (h:d.Tracked) (hmv:Moves d event d'):d'.Tracked:=by
 obtain ⟨hrev,hthr⟩:=moves_threads hmv
 refine ⟨?_,?_,?_,?_⟩
 · intro u hu
   rcases hthr u hu with ⟨heq,-⟩ | ⟨t,ht,heq,-⟩
   · omega
   · have:=h.stamped t ht
     omega
 · intro p hp
   rcases admitted_moves hmv with ⟨hsame,hle⟩ | ⟨hnew,hnext⟩
   · have:=h.fresh p (hsame▸hp)
     omega
   · rw[hnew,mem_append,mem_singleton] at hp
     rcases hp with hold | rfl
     · have:=h.fresh p hold
       omega
     · dsimp only
       omega
 · rcases admitted_moves hmv with ⟨hsame,-⟩ | ⟨hnew,-⟩
   · rw[Dispatcher.ids,hsame]
     exact h.distinct
   · rw[Dispatcher.ids,hnew,map_append,map_singleton,nodup_append]
     refine ⟨h.distinct,nodup_singleton _,?_⟩
     rintro id hid _ hlast rfl
     obtain ⟨p,hp,hpid⟩:=mem_map.mp hid
     cases mem_singleton.mp hlast
     have:=(h.fresh p hp).1
     omega
 · intro id
   have hplac:=carries_moves hmv id
   have hpla:=h.placed id
   omega

theorem tracked_new (maxBuffer:ℕ):(newDispatcher maxBuffer).Tracked where
 stamped:=by simp[newDispatcher]
 fresh:=by simp[newDispatcher]
 distinct:=nodup_nil
 placed:=fun _=>Nat.le_refl _

theorem Dispatcher.Tracked.of_waiting (h:d.Tracked) (ht:t∈d.threads) {id:ℕ} (hid:id∈t.callbacks):
 id∈d.ids∧id∉d.begun:=by
 have hthre:0<(d.threads.flatMap Thread.callbacks).count id:=count_pos_iff.mpr (mem_flatMap.mpr ⟨t,ht,hid⟩)
 have hpla:=h.placed id
 have hdis:=nodup_iff_count_le_one.mp h.distinct id
 grind [Dispatcher.places,count_pos_iff.mp,count_pos_iff.mpr]

theorem mem_begun {id:ℕ}:id∈d.begun ↔ .callback id∈d.started:=by
 rw[Dispatcher.begun,mem_filterMap]
 constructor
 · rintro ⟨job,hjob,hid⟩
   cases job with
   | hook=>cases hid
   | callback=>
    cases hid
    exact hjob
 · exact fun hjob=>⟨.callback id,hjob,rfl⟩

end Places

theorem exclusive_new (maxBuffer:ℕ):(newDispatcher maxBuffer).Exclusive where
 holder:=rfl
 history:=rfl
 jobs:=by simp[newDispatcher]
 single:=by simp[newDispatcher]

theorem reachable {maxBuffer : ℕ} {events : List Event}
    (hrun : run step (newDispatcher maxBuffer) events = some d) (hera : d.era < UInt64.size) :
    d.Exclusive ∧ d.Tracked ∧ d.Numbered := by
  obtain ⟨⟨hexclusive, htracked⟩, hnumbered⟩ :=
    invariant_of_moves (fun d => d.Exclusive ∧ d.Tracked)
      (fun _ _ _ h _ hmoves => ⟨h.1.moves hmoves, h.2.moves hmoves⟩) (numbered_new maxBuffer)
      ⟨exclusive_new maxBuffer, tracked_new maxBuffer⟩ (along_true _ _) hrun hera
  grind

/-! ## What a Reset drops -/

structure Dispatcher.Dropped (id:ℕ) (d:Dispatcher):Prop where
 old:id<d.dispatched
 unstarted:id∉d.begun
 unbuffered:id∉d.buffer
 stale:∀ t∈d.threads,id∈t.callbacks →
  t.era<d.era∧(t.phase=.checked→ t.jobs.head?≠some (.callback id))

namespace Dispatcher.Dropped

variable {id:ℕ} {d d':Dispatcher} {event:Event} {before after:List Thread} {t:Thread}

theorem moved (h:d.Dropped id) (hthr:d.threads=before++t::after) (mid:List Thread)
 (hth':d'.threads=before++(mid++after)) (huns:id∉d'.begun) (hunb:id∉d'.buffer)
 (hmid:∀ u∈mid,id∈u.callbacks → u.era<d.era∧(u.phase=.checked→ u.jobs.head?≠some (.callback id)))
 (hrev:d'.era=d.era) (hdis:d'.dispatched=d.dispatched):d'.Dropped id:=by
 refine ⟨hdis▸h.old,huns,hunb,fun u hu hid=>?_⟩
 rw[hrev]
 rw[hth',mem_append,mem_append] at hu
 rcases hu with hbef | hnew | haf
 · exact h.stale u (by rw[hthr]; exact mem_append_left _ hbef) hid
 · exact hmid u hnew hid
 · exact h.stale u (by rw[hthr]; exact mem_append_right _ (mem_cons_of_mem t haf)) hid

theorem joined (h:d.Dropped id) (hid:id∉t.callbacks) (hthr:d'.threads=d.threads++[t])
 (huns:d'.begun=d.begun) (hunb:id∉d'.buffer) (hrev:d'.era=d.era)
 (hdis:d.dispatched≤d'.dispatched):d'.Dropped id:=by
 refine ⟨Nat.lt_of_lt_of_le h.old hdis,huns▸h.unstarted,hunb,fun u hu hu'=>?_⟩
 rw[hrev]
 rw[hthr,mem_append,mem_singleton] at hu
 rcases hu with hold | rfl
 · exact h.stale u hold hu'
 · exact absurd hu' hid

theorem moves (h:d.Dropped id) (hmv:Moves d event d'):d'.Dropped id:=by
 have hold:=h.old
 cases hmv with
 | pause | ignore=>exact ⟨h.old,h.unstarted,h.unbuffered,h.stale⟩
 | refuse=>exact ⟨Nat.lt_succ_of_lt hold,h.unstarted,h.unbuffered,h.stale⟩
 | reset=>
  exact ⟨hold,h.unstarted,not_mem_nil,fun u hu hid=>
   ⟨Nat.lt_succ_of_lt (h.stale u hu hid).1,(h.stale u hu hid).2⟩⟩
 | overflow=>
  exact ⟨Nat.lt_succ_of_lt hold,h.unstarted,not_mem_nil,fun u hu hid=>
   ⟨Nat.lt_succ_of_lt (h.stale u hu hid).1,(h.stale u hu hid).2⟩⟩
 | buffer=>
  refine ⟨Nat.lt_succ_of_lt hold,h.unstarted,?_,h.stale⟩
  rw[mem_append,mem_singleton]
  rintro (hmem | heq)
  · exact h.unbuffered hmem
  · omega
 | resume=>
  refine h.joined ?_ rfl rfl not_mem_nil rfl (Nat.le_refl _)
  rw[Thread.callbacks,if_neg (by simp),callbacks_batch]
  exact h.unbuffered
 | deliver=>
  refine h.joined ?_ rfl rfl h.unbuffered rfl (Nat.le_succ _)
  show id∉[d.dispatched]
  rw[mem_singleton]
  omega
 | @lock before after t hthr hfree hph=>
  refine h.moved hthr [{t with phase:=.locked}] rfl h.unstarted h.unbuffered ?_ rfl rfl
  intro u hu hid
  cases mem_singleton.mp hu
  refine ⟨(h.stale t (mem_of_split hthr) ?_).1,by simp⟩
  simpa[Thread.callbacks,hph] using hid
 | @pass before after t hthr hph hcurr=>
  refine h.moved hthr [{t with phase:=.checked}] rfl h.unstarted h.unbuffered ?_ rfl rfl
  intro u hu hid
  cases mem_singleton.mp hu
  -- a thread that has the callback is stale, and does not pass
  have hsta:=(h.stale t (mem_of_split hthr) (by simpa[Thread.callbacks,hph] using hid)).1
  omega
 | fail hthr | last hthr | giveUp hthr | unpause hthr=>
  exact h.moved hthr [] rfl h.unstarted h.unbuffered (by simp) rfl rfl
 | @start before after t hthr hph=>
  have hwt:=callbacks_of_waiting (show t.phase≠.running by rw[hph]; decide)
  have hsta:=h.stale t (mem_of_split hthr)
  refine h.moved hthr [{t with phase:=.running}] rfl ?_ h.unbuffered ?_ rfl rfl
  · rw[mem_begun,mem_append,mem_toList]
    rintro (hbef | hhead)
    · exact h.unstarted (mem_begun.mpr hbef)
    · refine (hsta ?_).2 hph hhead
      rw[hwt,mem_filterMap]
      exact ⟨.callback id,mem_of_mem_head? hhead,rfl⟩
  · grind [callbacks_start,Thread.callbacks]
 | @next before after t hthr hph=>
  refine h.moved hthr [{t with jobs:=t.jobs.tail,phase:=.idle}] rfl h.unstarted h.unbuffered ?_ rfl rfl
  intro u hu hid
  cases mem_singleton.mp hu
  refine ⟨(h.stale t (mem_of_split hthr) ?_).1,by simp⟩
  simpa[Thread.callbacks,hph] using hid
 | @refill before after t hthr hrs hph=>
  refine h.moved hthr [{t with jobs:=d.buffer.map .callback}] rfl h.unstarted not_mem_nil ?_ rfl rfl
  intro u hu hid
  cases mem_singleton.mp hu
  rw[Thread.callbacks,if_neg (by simp[hph]),filterMap_callbacks] at hid
  exact absurd hid h.unbuffered

end Dispatcher.Dropped

theorem Dispatcher.Tracked.dropped {d:Dispatcher} (h:d.Tracked)
  (hcle:∀ t∈d.threads,t.phase=.checked → ∀ id,t.jobs.head?≠some (.callback id)) {id:ℕ}
  (hid:id∈d.ids) (hstd : .callback id∉d.started):d.reset.Dropped id where
 old:=by
  obtain ⟨p,hp,rfl⟩:=mem_map.mp hid
  exact (h.fresh p hp).1
 unstarted:=fun hbg=>hstd (mem_begun.mp hbg)
 unbuffered:=not_mem_nil
 stale:=fun t ht _=>⟨Nat.lt_succ_of_le (h.stamped t ht),fun hph=>hcle t ht hph id⟩

/-- As long as the revision does not wrap, a `Reset` drops every callback that has not started exactly
if no thread stands between its check and the start of a callback. -/
theorem reset_drops_unstarted_iff {maxBuffer : ℕ} {events : List Event} {d : Dispatcher}
    (hrun : run step (newDispatcher maxBuffer) events = some d) (hera : d.era + 1 < UInt64.size) :
    (∀ later e, run step d (.reset :: later) = some e → e.era < UInt64.size →
      ∀ id ∈ d.ids, .callback id ∉ d.started → .callback id ∉ e.started) ↔
    ∀ t ∈ d.threads, t.phase = .checked → ∀ id, t.jobs.head? ≠ some (.callback id) := by
  obtain ⟨-, h, hnum⟩ := reachable hrun (Nat.lt_of_succ_lt hera)
  constructor
  · intro hdrop t ht hphase id hhead
    obtain ⟨k, hk⟩ := List.getElem?_of_mem ht
    have hwaiting : id ∈ t.callbacks := by
      rw [callbacks_of_waiting (by rw [hphase]; decide), mem_filterMap]
      exact ⟨.callback id, mem_of_mem_head? hhead, rfl⟩
    obtain ⟨hid, hunstarted⟩ := h.of_waiting ht hwaiting
    have hstart : step d.reset (.start k) = some (d.reset.start k t) := by
      grind [step,Dispatcher.at,Dispatcher.reset]
    refine hdrop [.start k] (d.reset.start k t) ?_ hera id hid
      (fun hstarted => hunstarted (mem_begun.mpr hstarted)) ?_
    · exact run_cons_eq_some.mpr ⟨d.reset, rfl, run_cons_eq_some.mpr ⟨_, hstart, rfl⟩⟩
    · simp [Dispatcher.start, hhead]
  · intro hclear later e hlater hbound id hid hunstarted hstarted
    obtain ⟨next, hnext, hrest⟩ := run_cons_eq_some.mp hlater
    cases hnext
    have hdropped := (invariant_of_moves (Dispatcher.Dropped id) (fun _ _ _ h _ hmoves => h.moves hmoves)
      (hnum.moves .reset) (h.dropped hclear hid hunstarted) (along_true _ _) hrest hbound).1
    exact hdropped.unstarted (mem_begun.mpr hstarted)

def hookChecked:List Event:=[.pause,.dispatch,.resume true,.lock 0,.check 0]

theorem reset_drops_unstarted_hook :
 ∃ d,run step (newDispatcher 1024) hookChecked=some d∧d.ids=[0]∧
  ∀ later e,run step d (.reset::later)=some e → e.era<UInt64.size → .callback 0∉e.started:=by
 refine ⟨_,rfl,rfl,fun later e hlat hera=>?_⟩
 have hrun:run step (newDispatcher 1024) hookChecked=some _:=rfl
 refine (reset_drops_unstarted_iff hrun (by decide)).mpr ?_ later e hlat hera 0 (by decide) (by decide)
 intro t ht hph id
 cases mem_singleton.mp ht
 simp

theorem reset_crossed_by_callback :
 ∃ d e,run step (newDispatcher 1024) [.dispatch,.lock 0,.check 0]=some d∧
  run step d [.reset,.start 0]=some e∧
  0∈d.ids∧.callback 0∉d.started∧.callback 0∈e.started:=
 ⟨_,_,rfl,rfl,by decide,by decide,by decide⟩

/-! ## The calls under way come to an end -/

def Phase.remaining:Phase→ℕ
 | .idle=>3
 | .locked=>2
 | .checked=>1
 | .running=>0

def Thread.remaining (t:Thread):ℕ:=5*t.jobs.length+t.phase.remaining
def Dispatcher.remaining (d:Dispatcher):ℕ:=(d.threads.map Thread.remaining).sum+6*d.buffer.length

section Progress

variable {d d':Dispatcher} {event:Event}

theorem remaining_moved {before after:List Thread} {t:Thread} (hthr:d.threads=before++t::after)
 (mid:List Thread) (hth':d'.threads=before++(mid++after))
 (hless:(mid.map Thread.remaining).sum+6*d'.buffer.length<t.remaining+6*d.buffer.length):
 d'.remaining<d.remaining:=by
 simp only[Dispatcher.remaining,hthr,hth',map_append,map_cons,sum_append,sum_cons]
 omega

theorem remaining_moves (h:d.Exclusive) (hint:event.internal=true) (hmv:Moves d event d'):
 d'.remaining<d.remaining:=by
 cases hmv with
 | pause | reset | ignore | resume | refuse | overflow | buffer | deliver=>cases hint
 | @lock before after t hthr hfree hph=>
  refine remaining_moved hthr [{t with phase:=.locked}] rfl ?_
  simp[Thread.remaining,hph,Phase.remaining]
 | @pass before after t hthr hph=>
  refine remaining_moved hthr [{t with phase:=.checked}] rfl ?_
  simp[Thread.remaining,hph,Phase.remaining]
 | @start before after t hthr hph=>
  refine remaining_moved hthr [{t with phase:=.running}] rfl ?_
  simp[Thread.remaining,hph,Phase.remaining]
 | fail hthr hph | giveUp hthr hrs hph | unpause hthr hrs hph=>
  refine remaining_moved hthr [] rfl ?_
  simp[Thread.remaining,hph,Phase.remaining]
 | @next before after t hthr hph hrs=>
  refine remaining_moved hthr [{t with jobs:=t.jobs.tail,phase:=.idle}] rfl ?_
  have hjobs:=length_pos_iff.mpr
   (h.jobs t (mem_of_split hthr) (by simp[Thread.delivers,hph]))
  simp only[map_singleton,sum_singleton,Thread.remaining,hph,Phase.remaining,length_tail]
  omega
 | @last before after t hthr hph hd=>
  refine remaining_moved hthr [] rfl ?_
  have hjobs:=length_pos_iff.mpr
   (h.jobs t (mem_of_split hthr) (by simp[Thread.delivers,hph]))
  simp only[map_nil,sum_nil,Thread.remaining]
  omega
 | @refill before after t hthr hrs hph hjobs hcurr hfull=>
  refine remaining_moved hthr [{t with jobs:=d.buffer.map .callback}] rfl ?_
  have hlen:=length_pos_iff.mpr hfull
  simp only[map_singleton,sum_singleton,Thread.remaining,hph,Phase.remaining,length_map,length_nil]
  omega

theorem thread_moves (h:d.Exclusive) (hthr:d.threads≠[]):
 ∃ event d',event.internal=true∧step d event=some d':=by
 by_cases hhol:∃ t∈d.threads,t.delivers=true
 · obtain ⟨t,ht,hdel⟩:=hhol
   obtain ⟨k,hk⟩:=List.getElem?_of_mem ht
   cases hph : t.phase with
   | idle=>simp[Thread.delivers,hph] at hdel
   | locked=>exact ⟨.check k,_,rfl,by simp only[step,Dispatcher.at,hk,Option.filter,hph]; rfl⟩
   | checked=>exact ⟨.start k,_,rfl,by simp only[step,Dispatcher.at,hk,Option.filter,hph]; rfl⟩
   | running=>exact ⟨.finish k,_,rfl,by simp only[step,Dispatcher.at,hk,Option.filter,hph]; rfl⟩
 · -- nobody holds `deliverMu`: the first thread takes it or is done with its batch
   have hfree:d.delivering=false:=by
    by_contra hheld
    have hct:=h.holder
    rw[if_pos (by simpa using hheld)] at hct
    obtain ⟨t,ht,hdel⟩:=countP_pos_iff.mp (hct▸Nat.one_pos)
    exact hhol ⟨t,ht,hdel⟩
   obtain ⟨t,rest,hlist⟩:=exists_cons_of_ne_nil hthr
   have ht:t∈d.threads:=by rw[hlist]; exact mem_cons_self
   have hph:t.phase=.idle:=by
    grind [Thread.delivers]
   have hk:d.threads[0]?=some t:=by rw[hlist]; rfl
   by_cases hjobs:t.jobs=[]
   · have hrs:t.resume=true:=by
      by_contra hd
      obtain ⟨id,hid⟩:=h.single t ht (by simpa using hd)
      rw[hjobs] at hid
      cases hid
     exact ⟨.settle 0,_,rfl,by simp only[step,Dispatcher.at,hk,Option.filter,hph,hjobs,hrs]; rfl⟩
   · exact ⟨.lock 0,{d.put 0 {t with phase:=.locked} with delivering:=true},rfl,
      by simp[step,Dispatcher.at,hk,Option.filter,hph,hjobs,hfree]⟩

theorem calls_return (inv : Dispatcher → Prop)
    (hinv : ∀ d event d', inv d → event.internal = true → Moves d event d' → inv d')
    (h : d.Exclusive) (hnum : d.Numbered) (hera : d.era < UInt64.size) (hd : inv d) :
    ∃ events e, (∀ event ∈ events, Event.internal event = true) ∧ run step d events = some e ∧
      e.Exclusive ∧ inv e ∧ e.threads = [] := by
  obtain ⟨events, e, hinternal, hrun, ⟨he, -, -, hend⟩, hquiet⟩ :=
    exists_run_of_progress
      (fun d : Dispatcher => d.Exclusive ∧ d.Numbered ∧ d.era < UInt64.size ∧ inv d)
      (fun d => d.threads = []) (fun event => Event.internal event = true) Dispatcher.remaining
      (fun d hd hbusy => by
        obtain ⟨hexclusive, hnum, hera, hd⟩ := hd
        obtain ⟨event, d', hint, hstep⟩ := thread_moves hexclusive hbusy
        have hmoves := moves_of_step hnum hera hstep
        have hframe := (internal_frame hint hmoves).2
        exact ⟨event, d', hint, hstep, ⟨hexclusive.moves hmoves, hnum.moves hmoves,
          hframe.trans_lt hera, hinv d event d' hd hint hmoves⟩, remaining_moves hexclusive hint hmoves⟩)
      ⟨h, hnum, hera, hd⟩
  grind

end Progress

/-! ## What a Pause holds back -/

def Event.keepsGap:Event→Bool
 | .resume _ | .reset=>false
 | .pause | .dispatch | .lock _ | .check _ | .start _ | .finish _ | .settle _=>true

structure Dispatcher.Gated (n:ℕ) (d:Dispatcher):Prop where
 paused:d.paused=true
 resumes:∀ t∈d.threads,t.resume=true→ t.era<d.era
 jobs:∀ t∈d.threads,∀ id,.callback id∈t.jobs→ id<n
 started:∀ id,.callback id∈d.started→ id<n

namespace Dispatcher.Gated

variable {n:ℕ} {d d':Dispatcher} {event:Event} {before after:List Thread} {t:Thread}

theorem moved (h:d.Gated n) (hthr:d.threads=before++t::after) (mid:List Thread)
 (hth':d'.threads=before++(mid++after)) (hpau:d'.paused=d.paused)
 (hrev:d'.era=d.era)
 (hmid:∀ u∈mid,u.resume=t.resume∧u.era=t.era∧∀ job∈u.jobs,job∈t.jobs)
 (hstd:∀ job∈d'.started,job∈d.started∨job∈t.jobs):d'.Gated n:=by
 have ht:t∈d.threads:=mem_of_split hthr
 have hmem:∀ u∈d'.threads,u∈mid∨u∈d.threads:=by
  grind
 refine ⟨hpau▸h.paused,?_,?_,?_⟩
 · intro u hu hrs
   rw[hrev]
   rcases hmem u hu with hnew | hold
   · obtain ⟨hsame,heq,-⟩:=hmid u hnew
     exact heq▸h.resumes t ht (hsame▸hrs)
   · exact h.resumes u hold hrs
 · intro u hu id hid
   rcases hmem u hu with hnew | hold
   · exact h.jobs t ht id ((hmid u hnew).2.2 _ hid)
   · exact h.jobs u hold id hid
 · intro id hid
   rcases hstd _ hid with hold | hnew
   · exact h.started id hold
   · exact h.jobs t ht id hnew

theorem moves (h:d.Gated n) (hgap:event.keepsGap=true) (hmv:Moves d event d'):d'.Gated n:=by
 have hcurr:∀ {before after:List Thread} {t:Thread},d.threads=before++t::after →
   t.resume=true→ t.era=d.era→False:=by
  intro before after t hthr hrs hrev
  have:=h.resumes t (mem_of_split hthr) hrs
  omega
 cases hmv with
 | reset | ignore | resume=>cases hgap
 | pause=>exact ⟨rfl,h.resumes,h.jobs,h.started⟩
 | refuse | buffer=>exact ⟨h.paused,h.resumes,h.jobs,h.started⟩
 | overflow=>exact ⟨h.paused,fun u hu hrs=>Nat.lt_succ_of_lt (h.resumes u hu hrs),h.jobs,h.started⟩
 | deliver hopen=>
  rw[h.paused] at hopen
  cases hopen
 | @lock before after t hthr=>exact h.moved hthr [{t with phase:=.locked}] rfl rfl rfl (by simp) fun job=>.inl
 | @pass before after t hthr=>
  exact h.moved hthr [{t with phase:=.checked}] rfl rfl rfl (by simp) fun job=>.inl
 | fail hthr | last hthr | giveUp hthr=>exact h.moved hthr [] rfl rfl rfl (by simp) fun job=>.inl
 | @start before after t hthr=>
  refine h.moved hthr [{t with phase:=.running}] rfl rfl rfl (by simp) fun job hjob=>?_
  rcases mem_append.mp hjob with hold | hhead
  all_goals grind [mem_of_mem_head?,mem_toList.mp]
 | @next before after t hthr=>
  refine h.moved hthr [{t with jobs:=t.jobs.tail,phase:=.idle}] rfl rfl rfl ?_ fun job=>.inl
  simpa using fun job hjob=>mem_of_mem_tail hjob
 | unpause hthr hrs hph hjobs hrev | refill hthr hrs hph hjobs hrev=>exact (hcurr hthr hrs hrev).elim

end Dispatcher.Gated

theorem running_started (h:d.Exclusive) {t:Thread} (ht:t∈d.threads) (hph:t.phase=.running) {job:Job}
 (hhead:t.jobs.head?=some job):job∈d.started:=by
 rw[h.history,mem_append,mem_flatMap]
 grind [Thread.runs]

theorem job_placed (h:d.Exclusive) {t:Thread} (ht:t∈d.threads) {id:ℕ} (hid : .callback id∈t.jobs):
 id∈d.begun∨id∈t.callbacks:=by
 by_cases hph:t.phase=.running
 · cases hjobs : t.jobs with
   | nil=>rw[hjobs] at hid; cases hid
   | cons=>
    rw[hjobs,mem_cons] at hid
    rcases hid with rfl | hrest
    · grind [running_started,mem_begun.mpr]
    · refine .inr ?_
      rw[callbacks_of_running hph,hjobs,mem_filterMap]
      exact ⟨.callback id,hrest,rfl⟩
 · refine .inr ?_
   rw[callbacks_of_waiting hph,mem_filterMap]
   exact ⟨.callback id,hid,rfl⟩

theorem Dispatcher.Tracked.known (h:d.Tracked) {id:ℕ} (hid:0<d.places id):id<d.dispatched:=by
 have hpla:=h.placed id
 obtain ⟨p,hp,rfl⟩:=mem_map.mp (count_pos_iff.mp (Nat.lt_of_lt_of_le hid hpla))
 exact (h.fresh p hp).1

theorem started_known (h:d.Tracked) {id:ℕ} (hid:id∈d.begun):id<d.dispatched:=by
 have hct:=count_pos_iff.mpr hid
 exact h.known (by unfold Dispatcher.places; omega)

theorem job_known (hexcl:d.Exclusive) (h:d.Tracked) {t:Thread} (ht:t∈d.threads) {id:ℕ}
 (hid : .callback id∈t.jobs):id<d.dispatched:=by
 rcases job_placed hexcl ht hid with hbg | hwt
 · exact started_known h hbg
 · have hct:0<(d.threads.flatMap Thread.callbacks).count id:=
    count_pos_iff.mpr (mem_flatMap.mpr ⟨t,ht,hwt⟩)
   exact h.known (by unfold Dispatcher.places; omega)

def Dispatcher.Opening (d:Dispatcher):Prop:=
 d.paused=false∨∃ t∈d.threads,t.resume=true∧t.era=d.era

theorem opening_moves {d':Dispatcher} {event:Event} (h:d.Opening) (hint:event.internal=true)
 (hmv:Moves d event d'):d'.Opening:=by
 -- a thread that goes on keeps its kind and its revision
 have hmov:∀ {before after:List Thread} {t:Thread} (mid:List Thread),d.threads=before++t::after →
   d'.threads=before++(mid++after)→ d'.paused=d.paused→ d'.era=d.era →
   (t.resume=true→ t.era=d.era → ∃ u∈mid,u.resume=true∧u.era=d.era) →
   d'.Opening:=by
  intro before after t mid hthr hth' hpau hrev hmid
  rcases h with hopen | ⟨u,hu,hrs,hcurr⟩
  · exact .inl (hpau.trans hopen)
  · refine .inr ?_
    grind
 cases hmv with
 | pause | reset | ignore | resume | refuse | overflow | buffer | deliver=>cases hint
 | @lock before after t hthr | @pass before after t hthr | @start before after t hthr
 | @next before after t hthr | @refill before after t hthr=>
  exact hmov [_] hthr rfl rfl rfl (by simpa using And.intro)
 | fail hthr hph hsta | giveUp hthr hrs hph hjobs hsta=>
  exact hmov [] hthr rfl rfl rfl fun _ hcurr=>absurd hcurr hsta
 | last hthr hph hd=>exact hmov [] hthr rfl rfl rfl fun hrs _=>by rw[hd] at hrs; cases hrs
 | unpause=>exact .inl rfl

theorem dispatch_runs (h:d.Exclusive) (hqt:d.threads=[]) (hopen:d.paused=false):
 ∃ e,run step d [.dispatch,.lock 0,.check 0,.start 0]=some e∧.callback d.dispatched∈e.started:=by
 have hfree:d.delivering=false:=by
  have hhol:=h.holder
  grind
 refine ⟨{d.accept with
  threads:=[⟨false,d.revision,d.era,[.callback d.dispatched],.running⟩]
  delivering:=true
  started:=d.started++[.callback d.dispatched]},?_,by simp⟩
 simp[run,step,Dispatcher.dispatch,Dispatcher.accept,Dispatcher.at,Dispatcher.put,Dispatcher.check,
  Dispatcher.start,hopen,hqt,hfree,Option.filter]

theorem gap_era_moves {d' : Dispatcher} {event : Event} (hgap : event.keepsGap = true)
    (hmoves : Moves d event d') : d'.era = d.era ∧ d'.overflow = d.overflow ∨
      d.overflow = false ∧ d'.era = d.era + 1 ∧ d'.overflow = true := by
  cases hmoves with
  | reset | ignore | resume => cases hgap
  | overflow _ hfits => exact .inr ⟨hfits, rfl, rfl⟩
  | _ => exact .inl ⟨rfl, rfl⟩

/-- As long as the revision does not wrap, a `Pause` holds back what is dispatched later exactly if no
`Resume` of the current revision is under way. -/
theorem pause_holds_iff {maxBuffer : ℕ} {events : List Event} {d : Dispatcher}
    (hrun : run step (newDispatcher maxBuffer) events = some d) (hera : d.era + 1 < UInt64.size) :
    (∀ later e, (∀ event ∈ later, Event.keepsGap event = true) →
      run step d (.pause :: later) = some e → ∀ id, d.dispatched ≤ id → .callback id ∉ e.started) ↔
    ∀ t ∈ d.threads, t.resume = true → t.revision ≠ d.revision := by
  have hera' : d.era < UInt64.size := Nat.lt_of_succ_lt hera
  obtain ⟨hexcl, htracked, hnum⟩ := reachable hrun hera'
  constructor
  · intro hholds t ht hresume hcurrent
    -- let the calls under way return: the `Resume` opens the gap that the `Pause` closed
    have hpaused : ({d with paused := true} : Dispatcher).Exclusive :=
      ⟨hexcl.holder, hexcl.history, hexcl.jobs, hexcl.single⟩
    obtain ⟨returns, e, hint, hreturns, he, ⟨hopening, hn⟩, hquiet⟩ :=
      calls_return (fun e : Dispatcher => e.Opening ∧ d.dispatched ≤ e.dispatched)
        (fun _ _ _ hinv hint hmoves => ⟨opening_moves hinv.1 hint hmoves, by
          rcases admitted_moves hmoves with ⟨-, hle⟩ | ⟨-, heq⟩ <;> have := hinv.2 <;> omega⟩)
        hpaused (hnum.moves .pause) hera'
        ⟨.inr ⟨t, ht, hresume, (hnum.revision_eq_iff hera' ht).mp hcurrent⟩, Nat.le_refl _⟩
    have hopen : e.paused = false := by
      rcases hopening with hopen | ⟨u, hu, -⟩
      all_goals grind
    obtain ⟨f, hf, hstarted⟩ := dispatch_runs he hquiet hopen
    refine hholds (returns ++ [.dispatch, .lock 0, .check 0, .start 0]) f ?_ ?_ e.dispatched hn hstarted
    · intro event hevent
      rcases mem_append.mp hevent with hreturn | hlast
      · have := hint event hreturn
        cases event <;> first | rfl | cases this
      · exact (show ∀ event ∈ [Event.dispatch, .lock 0, .check 0, .start 0], event.keepsGap = true
          by decide) event hlast
    · exact run_cons_eq_some.mpr ⟨_, rfl, run_append_eq_some.mpr ⟨e, hreturns, hf⟩⟩
  · intro hnone later e hgap hlater id hid hstarted
    obtain ⟨next, hnext, hrest⟩ := run_cons_eq_some.mp hlater
    cases hnext
    -- without a `Reset` there is at most one overflow, so that the revision moves at most once
    have hkeep : ∀ s event s', (s.Gated d.dispatched ∧ s.Numbered ∧
          (s.era = d.era ∨ s.era = d.era + 1 ∧ s.overflow = true)) → Event.keepsGap event = true →
        step s event = some s' → s'.Gated d.dispatched ∧ s'.Numbered ∧
          (s'.era = d.era ∨ s'.era = d.era + 1 ∧ s'.overflow = true) := by
      rintro s event s' ⟨hs, hnums, heras⟩ hok hstep
      have hmoves := moves_of_step hnums (by omega) hstep
      refine ⟨hs.moves hok hmoves, hnums.moves hmoves, ?_⟩
      rcases gap_era_moves hok hmoves with ⟨he, ho⟩ | ⟨hfits, he, ho⟩
      · rwa [he, ho]
      · grind
    have hpaused : ({d with paused := true} : Dispatcher).Gated d.dispatched :=
      ⟨rfl, fun t ht hresume => (htracked.stamped t ht).lt_of_ne
          (mt (hnum.revision_eq_iff hera' ht).mpr (hnone t ht hresume)),
        fun t ht id hid => job_known hexcl htracked ht hid,
        fun id hid => started_known htracked (mem_begun.mpr hid)⟩
    have hgated := (invariant_along _ hkeep ⟨hpaused, hnum.moves .pause, .inl rfl⟩
      (along_of_forall hgap _) hrest).1.started id hstarted
    omega

theorem pause_holds_idle :
 ∃ d,run step (newDispatcher 1024) [.dispatch,.lock 0]=some d∧
  ∀ later e,(∀ event∈later,Event.keepsGap event=true)→ run step d (.pause::later)=some e →
   ∀ id,1≤ id → .callback id∉e.started:=by
 have hrun:run step (newDispatcher 1024) [.dispatch,.lock 0]=some _:=rfl
 refine ⟨_,rfl,(pause_holds_iff hrun (by decide)).mpr ?_⟩
 intro t ht hrs
 cases mem_singleton.mp ht
 cases hrs

theorem second_gap_forgotten :
 ∃ d e,run step (newDispatcher 1024) [.pause,.resume true,.lock 0,.check 0,.start 0]=some d∧
  run step d [.pause,.dispatch,.finish 0,.settle 0,.lock 0,.check 0,.start 0]=some e∧
  d.dispatched=0∧e.overflow=false∧.callback 0∈e.started:=
 ⟨_,_,rfl,rfl,rfl,rfl,by decide⟩

end BolterTrader.WsDispatch
