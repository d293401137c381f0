import BolterTrader.Streams.CallbackOrder

/-! The lifecycle callbacks of the dispatchers: as the clients issue the operations, a
`Recovered` follows each `Started` before the next one. -/
namespace BolterTrader.CallbackDispatch
open Foundations Transition List Option

/-! ## Delivered lifecycle callbacks -/

section
variable {κ δ:Type}

def lifecycleOf (callbacks:List (Callback κ δ)):List (Callback κ δ):=
 callbacks.filter fun callback=>callback.data?.isNone

/-- `Started` stands at every even place and at no other. -/
def Alternates (callbacks:List (Callback κ δ)):Prop:=
 ∀ i callback,callbacks[i]?=some callback→ callback.isStarted=decide (i % 2=0)

theorem Alternates.concat {callbacks:List (Callback κ δ)} {callback:Callback κ δ} (h:Alternates callbacks)
 (hnext:callback.isStarted=decide (callbacks.length % 2=0)):Alternates (callbacks++[callback]):=by
 intro i later hlat
 obtain hlt | rfl | hgt:=Nat.lt_trichotomy i callbacks.length
 · rw[List.getElem?_append_left hlt] at hlat
   exact h i later hlat
 all_goals grind

def Worker.recovered?:Worker κ δ→Option (ℕ×κ)
 | .running (.recovered generation conn)=>some (generation,conn)
 | _=>none

def Orderly (d:Dispatcher κ δ):Event κ δ→Prop
 | .reset | .stop=>False
 | .beginGap generation=>generation∉d.used
 | .activateConnection _ conn _=>
  ∀ recovery∈d.worker.recovered?,d.RecoveredIsCurrent recovery.1 recovery.2→ conn=recovery.2
 | .discardReplacement _ conn=>∀ recovery∈d.worker.recovered?,conn≠recovery.2
 | _=>True

/-! ## The invariant -/

def AwaitsRecovered (d:Dispatcher κ δ):Prop:=
 d.gapOpen=true∧hasStarted d.queue=false∧d.worker.recovered?=none

/-- What has been told, and what the worker is about to tell. -/
structure Lifecycle (d:Dispatcher κ δ):Prop where
 alternates:Alternates (lifecycleOf d.delivered)
 parity:(lifecycleOf d.delivered).length % 2=1 ↔ AwaitsRecovered d
 inFlight:d.inFlightKind=some .recovered ↔ d.worker.recovered?.isSome=true
 flight:∀ recovery∈d.worker.recovered?,
  d.RecoveredIsCurrent recovery.1 recovery.2∨d.gapOpen=true∧hasStarted d.queue=true
 going:d.stopped=false

variable {d next:Dispatcher κ δ}

theorem newGap_of_orderly {event:Event κ δ} (h:Orderly d event):NewGap d event:=by
 cases event with
 | beginGap=>exact h
 | _=>trivial

theorem not_awaits_of_recovered {recovery:ℕ×κ} (h:d.worker.recovered?=some recovery):¬ AwaitsRecovered d:=by
 rintro ⟨-,-,hnone⟩
 cases hnone.symm.trans h

theorem not_awaits_of_closed (h:d.gapOpen=false):¬ AwaitsRecovered d:=by
 rintro ⟨hopen,-,-⟩
 cases h.symm.trans hopen

theorem not_awaits_of_started (h:hasStarted d.queue=true):¬ AwaitsRecovered d:=by
 rintro ⟨-,hnone,-⟩
 cases hnone.symm.trans h

namespace Lifecycle

theorem same (h:Lifecycle d) (hdl:lifecycleOf next.delivered=lifecycleOf d.delivered)
 (hgap:next.gapOpen=d.gapOpen)
 (hstd:hasStarted next.queue=hasStarted d.queue) (hwk:next.worker.recovered?=d.worker.recovered?)
 (hkind:next.inFlightKind=some .recovered ↔ next.worker.recovered?.isSome=true)
 (hgoi:next.stopped=d.stopped)
 (hcurr:∀ recovery∈d.worker.recovered?,d.RecoveredIsCurrent recovery.1 recovery.2 →
  next.RecoveredIsCurrent recovery.1 recovery.2):Lifecycle next:=by
 have hawa:AwaitsRecovered next ↔ AwaitsRecovered d:=by
  unfold AwaitsRecovered
  rw[hgap,hstd,hwk]
 constructor
 · rw[hdl]
   exact h.alternates
 · rw[hdl,hawa]
   exact h.parity
 · exact hkind
 · intro recovery hrec
   rw[hwk] at hrec
   obtain hcur | hque:=h.flight recovery hrec
   all_goals grind
 · exact hgoi.trans h.going

theorem even_of_not_awaits (h:Lifecycle d) (hnot:¬ AwaitsRecovered d):(lifecycleOf d.delivered).length % 2=0:=by
 have hodd:=mt h.parity.mp hnot
 omega

theorem openGap (h:Lifecycle d) (generation:ℕ):Lifecycle (d.openGap generation):=by
 have hinF:(d.openGap generation).inFlightKind=some .recovered ↔
  (d.openGap generation).worker.recovered?.isSome=true:=h.inFlight
 by_cases hnee:d.NeedsStarted
 · have hstd:hasStarted (d.openGap generation).queue=true:=by
    have hq:(d.openGap generation).queue=withoutRecovered d.queue++[.started generation]:=if_pos hnee
    rw[hq,hasStarted_append]
    simp[Callback.isStarted]
   have heven:(lifecycleOf d.delivered).length % 2=0:=by
    refine h.even_of_not_awaits ?_
    obtain hcl | hkind:=hnee.1
    · exact not_awaits_of_closed hcl
    · obtain ⟨recovery,hrec⟩:=isSome_iff_exists.mp (h.inFlight.mp hkind)
      exact not_awaits_of_recovered hrec
   refine ⟨h.alternates,?_,hinF,fun _ _=>.inr ⟨rfl,hstd⟩,h.going⟩
   refine iff_of_false ?_ (not_awaits_of_started hstd)
   show ¬ (lifecycleOf d.delivered).length % 2=1
   omega
 · have hstd:hasStarted (d.openGap generation).queue=hasStarted d.queue:=by
    have hq:(d.openGap generation).queue=withoutRecovered d.queue:=if_neg hnee
    rw[hq,hasStarted_withoutRecovered]
   cases hque : hasStarted d.queue with
   | true=>
    rw[hque] at hstd
    have heven:=h.even_of_not_awaits (not_awaits_of_started hque)
    refine ⟨h.alternates,?_,hinF,fun _ _=>.inr ⟨rfl,hstd⟩,h.going⟩
    refine iff_of_false ?_ (not_awaits_of_started hstd)
    show ¬ (lifecycleOf d.delivered).length % 2=1
    omega
   | false=>
    -- the gap was open, and no `Recovered` runs that could end it
    have hoth:d.gapOpen=true∧d.inFlightKind≠some .recovered:=by
     grind [Dispatcher.NeedsStarted]
    have hnone:d.worker.recovered?=none:=by
     have hnot:=mt h.inFlight.mpr hoth.2
     simpa using hnot
    refine h.same rfl hoth.1.symm hstd rfl hinF rfl fun recovery hrec=>?_
    cases hnone.symm.trans hrec

theorem deliver (h:Lifecycle d) (hord:QueueOrder d) {callback:Callback κ δ} {rest:List (Callback κ δ)}
 (hwk:d.worker=.looping) (hq:d.queue=callback::rest)
 (hcurr:∀ generation conn,callback=.recovered generation conn→ d.RecoveredIsCurrent generation conn):
 Lifecycle (d.deliver callback rest):=by
 have hnone:d.worker.recovered?=none:=by rw[hwk]; rfl
 have hbeh:=hord.order
 rw[hq] at hbeh
 cases callback with
 | data entry=>
  have hsame:lifecycleOf (d.delivered++[.data entry])=lifecycleOf d.delivered:=by
   simp[lifecycleOf,Callback.data?]
  refine h.same hsame rfl ?_ hnone.symm ?_ rfl ?_
  · rw[hq]
    rfl
  · exact iff_of_false nofun nofun
  · grind
 | started generation=>
  have hque:hasStarted d.queue=true:=by
   rw[hq]
   rfl
  have hopen:d.gapOpen=true:=by
   cases hgap : d.gapOpen with
   | true=>rfl
   | false=>cases (hord.closed hgap).symm.trans hque
  have heven:=h.even_of_not_awaits (not_awaits_of_started hque)
  have hdl:lifecycleOf (d.delivered++[.started generation])=lifecycleOf d.delivered++[.started generation]:=by
   simp[lifecycleOf,Callback.data?]
  refine ⟨?_,iff_of_true ?_ ⟨hopen,(dataOf_behind_started hbeh).2,rfl⟩,iff_of_false nofun nofun,nofun,h.going⟩
  · show Alternates (lifecycleOf (d.delivered++[.started generation]))
    rw[hdl]
    exact h.alternates.concat (by simp[heven,Callback.isStarted])
  · show (lifecycleOf (d.delivered++[.started generation])).length % 2=1
    grind
 | recovered generation conn=>
  have hcur:=hcurr generation conn rfl
  have hbare:hasStarted d.queue=false:=by
   rw[hq]
   exact hasStarted_eq_false.mpr (forall_mem_cons.mpr
    ⟨rfl,fun later hlat=>((pairwise_cons.mp hbeh).1 later hlat).2 rfl⟩)
  have hodd:=h.parity.mpr ⟨hcur.1,hbare,hnone⟩
  have hdl:lifecycleOf (d.delivered++[.recovered generation conn]) =
    lifecycleOf d.delivered++[.recovered generation conn]:=by
   simp[lifecycleOf,Callback.data?]
  refine ⟨?_,iff_of_false ?_ (not_awaits_of_recovered rfl),iff_of_true rfl rfl,?_,h.going⟩
  · show Alternates (lifecycleOf (d.delivered++[.recovered generation conn]))
    rw[hdl]
    exact h.alternates.concat (by simp[hodd,Callback.isStarted])
  · show ¬ (lifecycleOf (d.delivered++[.recovered generation conn])).length % 2=1
    grind
  · intro recovery hrec
    cases hrec
    exact .inl hcur

theorem recovered_eq_none (h:Lifecycle d) (hcl:d.gapOpen=false):d.worker.recovered?=none:=by
 cases hrec : d.worker.recovered? with
 | none=>rfl
 | some recovery=>
  obtain hcurr | hque:=h.flight recovery hrec
  · cases hcl.symm.trans hcurr.1
  · cases hcl.symm.trans hque.1

end Lifecycle

theorem lifecycle_empty (limit:ℕ):Lifecycle ({limit}:Dispatcher κ δ) where
 alternates:=nofun
 parity:=iff_of_false nofun (not_awaits_of_closed rfl)
 inFlight:=iff_of_false nofun nofun
 flight:=nofun
 going:=rfl

end

section
variable {κ δ:Type} [DecidableEq κ] {d next:Dispatcher κ δ} {event:Event κ δ}

theorem Lifecycle.of_step (h:Lifecycle d) (hord:QueueOrder d) (horde:Orderly d event)
 (hstep:step d event=some next):Lifecycle next:=by
 cases moves_of_step hstep with
 | ignored=>exact h
 | activated=>
  refine h.same rfl rfl rfl rfl h.inFlight rfl fun recovery hrec hcurr=>?_
  have hconn:=horde recovery hrec hcurr
  exact ⟨hcurr.1,hcurr.2.1,congrArg some hconn,hcurr.2.2.2⟩
 | replaced generation conn hopen hgen hoth=>
  refine h.same rfl rfl (hasStarted_withoutRecovered _) rfl h.inFlight rfl fun recovery hrec hcurr=>?_
  have hconn:=horde recovery hrec hcurr
  exact absurd (hcurr.2.2.2.trans (congrArg some hconn.symm)) hoth
 | held conn payloads hopen hconn=>
  refine h.same rfl rfl rfl rfl h.inFlight rfl fun recovery hrec hcurr=>?_
  exact ⟨hcurr.1,hcurr.2.1,hcurr.2.2.1,hconn.symm.trans hcurr.2.2.1⟩
 | appended conn payloads hcl=>
  have hnone:=h.recovered_eq_none hcl
  have hstd:hasStarted (d.append conn payloads).queue=hasStarted d.queue:=by
   show hasStarted (d.queue++_)=_
   rw[hasStarted_append,hasStarted_map_data,Bool.or_false]
  refine h.same rfl rfl hstd rfl h.inFlight rfl fun recovery hrec=>?_
  cases hnone.symm.trans hrec
 | gapBegun generation=>exact h.openGap generation
 | left generation conn=>
  refine h.same rfl rfl rfl rfl h.inFlight rfl fun recovery hrec hcurr=>?_
  refine ⟨hcurr.1,hcurr.2.1,?_,hcurr.2.2.2⟩
  have hoth:d.currentConn≠some conn:=by
   rw[hcurr.2.2.1]
   exact fun heq=>horde recovery hrec (some.inj heq).symm
  exact (if_neg hoth).trans hcurr.2.2.1
 | discarded generation conn hopen hgen hconn=>
  refine h.same rfl rfl (hasStarted_withoutRecovered _) rfl h.inFlight rfl fun recovery hrec hcurr=>?_
  exact absurd (some.inj (hconn.symm.trans hcurr.2.2.2)) (horde recovery hrec)
 | recovered generation conn=>
  have hstd:hasStarted (d.queueRecovered generation conn).queue=hasStarted d.queue:=by
   show hasStarted (withoutRecovered d.queue++[_])=_
   rw[hasStarted_append,hasStarted_withoutRecovered]
   exact Bool.or_false _
  exact h.same rfl rfl hstd rfl h.inFlight rfl fun _ _ hcurr=>hcurr
 | reset | stopped=>exact horde.elim
 | signalled=>exact h.same rfl rfl rfl rfl h.inFlight rfl fun _ _ hcurr=>hcurr
 | woken hwk | rested hwk=>
  have hnone:d.worker.recovered?=none:=by rw[hwk]; rfl
  have hkind:=h.inFlight
  rw[hnone] at hkind
  exact h.same rfl rfl rfl hnone.symm hkind rfl fun _ _ hcurr=>hcurr
 | ended hwk hsto=>cases h.going.symm.trans hsto
 | skipped generation conn rest hwk hq=>
  have hstd:hasStarted rest=hasStarted d.queue:=by
   rw[hq]
   rfl
  exact h.same rfl rfl hstd rfl h.inFlight rfl fun _ _ hcurr=>hcurr
 | delivered callback rest hwk hq hcurr=>exact h.deliver hord hwk hq hcurr
 | closed generation conn hwk hcurr=>
  have hrn:d.worker.recovered?=some (generation,conn):=by rw[hwk]; rfl
  have heven:=h.even_of_not_awaits (not_awaits_of_recovered hrn)
  refine ⟨h.alternates,iff_of_false ?_ (not_awaits_of_closed rfl),iff_of_false nofun nofun,nofun,h.going⟩
  show ¬ (lifecycleOf d.delivered).length % 2=1
  omega
 | returned callback hwk hoth=>
  cases callback with
  | data entry | started generation=>
   have hnone:d.worker.recovered?=none:=by rw[hwk]; rfl
   exact h.same rfl rfl rfl hnone.symm (iff_of_false nofun nofun) rfl fun _ _ hcurr=>hcurr
  | recovered generation conn=>
   -- a `Recovered` that a new gap overtook: its `Started` is queued
   have hrn:d.worker.recovered?=some (generation,conn):=by rw[hwk]; rfl
   have heven:=h.even_of_not_awaits (not_awaits_of_recovered hrn)
   obtain hcurr | hque:=h.flight _ hrn
   · exact absurd ⟨h.going,hcurr⟩ hoth
   · refine ⟨h.alternates,iff_of_false ?_ (not_awaits_of_started hque.2),iff_of_false nofun nofun,nofun,h.going⟩
     grind

end

end BolterTrader.CallbackDispatch
