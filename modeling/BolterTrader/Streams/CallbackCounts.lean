import BolterTrader.Streams.CallbackDispatch

/-! How much the callback dispatchers hold: the counter of pending data against the queue and
the buffer, and the slots that are kept for the two lifecycle callbacks. -/
namespace BolterTrader.CallbackDispatch
open Foundations Transition List

section
variable {κ δ:Type}

theorem length_queue (qu:List (Callback κ δ)):qu.length =
 (dataOf qu).length+qu.countP Callback.isStarted+qu.countP Callback.isRecovered:=by
 induction qu with
 | nil=>rfl
 | cons cb rest ih=>
  cases cb<;>simp[countP_cons,Callback.isStarted,Callback.isRecovered]<;>omega

theorem countP_withoutRecovered (qu:List (Callback κ δ)):
 (withoutRecovered qu).countP Callback.isStarted=qu.countP Callback.isStarted∧
  (withoutRecovered qu).countP Callback.isRecovered=0:=by
 constructor
 · rw[withoutRecovered,countP_filter]
   refine countP_congr fun cb _=>?_
   cases cb<;>simp[Callback.isStarted,Callback.isRecovered]
 · simp[withoutRecovered,countP_filter]

theorem countP_data (ens:List (Data κ δ)):(ens.map Callback.data).countP Callback.isStarted=0∧
 (ens.map Callback.data).countP Callback.isRecovered=0:=by
 constructor<;>simp[countP_eq_zero,Callback.isStarted,Callback.isRecovered]

structure Counted (limit:ℕ) (d:Dispatcher κ δ):Prop where
 limit:d.limit=limit
 pending:d.pendingData=(dataOf d.queue).length+d.replacement.length
 room:d.pendingData≤d.dataLimit
 started:d.queue.countP Callback.isStarted≤1
 recovered:d.queue.countP Callback.isRecovered≤1

variable {limit:ℕ} {d:Dispatcher κ δ}

theorem Counted.dropped (h:Counted limit d):Counted limit d.dropReplacement.removeQueuedRecovered:=by
 obtain ⟨hst,hrec⟩:=countP_withoutRecovered d.queue
 have hpd:max 0 (d.pendingData-d.replacement.length)=(dataOf d.queue).length:=by
  rw[h.pending]
  omega
 refine ⟨h.limit,?_,?_,hst.trans_le h.started,hrec.trans_le (Nat.zero_le 1)⟩
 · show max 0 (d.pendingData-d.replacement.length)=(dataOf (withoutRecovered d.queue)).length+(0:ℕ)
   rw[hpd,dataOf_withoutRecovered,Int.natCast_zero,Int.add_zero]
 · have hroom:=h.room
   rw[h.pending] at hroom
   show max 0 (d.pendingData-d.replacement.length)≤d.dataLimit
   omega

theorem Counted.clear (h:Counted limit d):Counted limit d.clear:=
 ⟨h.limit,rfl,Int.natCast_nonneg _,(Nat.zero_le 1),(Nat.zero_le 1)⟩

theorem Counted.deliver (h:Counted limit d) {cb:Callback κ δ} {rest:List (Callback κ δ)}
 (hq:d.queue=cb::rest):Counted limit (d.deliver cb rest):=by
 have hpd:=h.pending
 have hroom:=h.room
 have hst:=h.started
 have hrec:=h.recovered
 rw[hq] at hpd hst hrec
 refine ⟨h.limit,?_,?_,(sublist_cons_self cb rest).countP_le.trans hst,
  (sublist_cons_self cb rest).countP_le.trans hrec⟩
 · show (if cb.kind=.data then d.pendingData-1 else d.pendingData)=(dataOf rest).length+d.replacement.length
   cases cb<;>simp[Callback.kind] at hpd ⊢<;>omega
 · show (if cb.kind=.data then d.pendingData-1 else d.pendingData)≤d.dataLimit
   split<;>omega

theorem counted_empty (limit:ℕ):Counted limit ({limit}:Dispatcher κ δ) where
 limit:=rfl
 pending:=rfl
 room:=Int.natCast_nonneg _
 started:=(Nat.zero_le 1)
 recovered:=(Nat.zero_le 1)

variable [DecidableEq κ] {next:Dispatcher κ δ} {event:Event κ δ}

theorem enqueueData_room (h:d.pendingData≤d.dataLimit) (conn:κ) (payloads:List δ):
 (d.enqueueData conn payloads).1.pendingData≤d.dataLimit:=by
 unfold Dispatcher.enqueueData
 split_ifs with _ _ hfull
 all_goals first | exact h | exact Int.not_lt.mp hfull

theorem Counted.of_step (h:Counted limit d) (hstep:step d event=some next):Counted limit next:=by
 cases moves_of_step hstep with
 | ignored=>exact h
 | activated | left | signalled | woken | ended | rested | returned=>exact {h with}
 | replaced | discarded=>exact {h.dropped with}
 | held conn payloads=>
  have hroom:=enqueueData_room h.room conn payloads
  rw[Option.some.inj hstep] at hroom
  refine {h with pending:=?_,room:=hroom}
  show d.pendingData+payloads.length=(dataOf d.queue).length+(d.replacement++d.entries conn payloads).length
  rw[h.pending,length_append,Dispatcher.entries,number_length]
  omega
 | appended conn payloads=>
  have hroom:=enqueueData_room h.room conn payloads
  rw[Option.some.inj hstep] at hroom
  obtain ⟨hst,hrec⟩:=countP_data (d.entries conn payloads)
  refine ⟨h.limit,?_,hroom,?_,?_⟩
  · show d.pendingData+payloads.length=(dataOf (d.queue++_)).length+d.replacement.length
    rw[h.pending,dataOf_append,dataOf_map_data,length_append,Dispatcher.entries,number_length]
    omega
  · show (d.queue++_).countP _≤1
    rw[countP_append,hst]
    exact h.started
  · show (d.queue++_).countP _≤1
    rw[countP_append,hrec]
    exact h.recovered
 | gapBegun gen=>
  obtain ⟨hst,hrec⟩:=countP_withoutRecovered d.queue
  refine {h.dropped with pending:=?_,started:=?_,recovered:=?_}
  · show d.dropReplacement.pendingData=(dataOf (d.openGap gen).queue).length+(0:ℕ)
    rw[dataOf_openGap,←dataOf_withoutRecovered d.queue]
    exact h.dropped.pending
  · show (if _ then _ else _ : List (Callback κ δ)).countP _≤1
    split
    next hneed=>
     have hnone:d.queue.countP Callback.isStarted=0:=countP_eq_zero.mpr fun cb hmem=>by
      simp[hasStarted_eq_false.mp hneed.2 cb hmem]
     grind
    next=>exact hst.trans_le h.started
  · show (if _ then _ else _ : List (Callback κ δ)).countP _≤1
    split
    · grind
    · grind
 | recovered=>
  obtain ⟨hst,hrec⟩:=countP_withoutRecovered d.queue
  refine {h with pending:=?_,started:=?_,recovered:=?_}
  · show d.pendingData=(dataOf (withoutRecovered d.queue++[_])).length+d.replacement.length
    rw[dataOf_append,dataOf_withoutRecovered,dataOf_cons_recovered,dataOf_nil,append_nil]
    exact h.pending
  · show (withoutRecovered d.queue++[_]).countP _≤1
    rw[countP_append,hst]
    exact h.started
  · show (withoutRecovered d.queue++[_]).countP _≤1
    rw[countP_append,hrec]
    rfl
 | reset=>exact h.clear
 | stopped=>exact {h.clear with}
 | skipped gen conn rest hwk hq=>
  have hpd:=h.pending
  have hst:=h.started
  have hrec:=h.recovered
  rw[hq] at hpd hst hrec
  exact {h with
   pending:=hpd
   started:=(sublist_cons_self _ rest).countP_le.trans hst
   recovered:=(sublist_cons_self _ rest).countP_le.trans hrec}
 | delivered cb rest hwk hq=>exact h.deliver hq
 | closed=>
  obtain ⟨hst,hrec⟩:=countP_data d.replacement
  refine {h with pending:=?_,started:=?_,recovered:=?_}
  · show d.pendingData=(dataOf (d.queue++d.replacement.map .data)).length+(0:ℕ)
    rw[dataOf_append,dataOf_map_data,length_append,h.pending]
    omega
  · show (d.queue++_).countP _≤1
    rw[countP_append,hst]
    exact h.started
  · show (d.queue++_).countP _≤1
    rw[countP_append,hrec]
    exact h.recovered

/-- The counter counts the waiting entries, and the queue keeps its limit. -/
theorem pendingData_counted (hlimit:3≤limit) {events:List (Event κ δ)}
 (hrun:run step ({limit}:Dispatcher κ δ) events=some d):
 d.pendingData=(dataOf d.queue).length+d.replacement.length∧d.pendingData≤limit-2∧
  d.queue.countP Callback.isStarted≤1∧d.queue.countP Callback.isRecovered≤1∧
  d.queue.length+d.replacement.length≤limit:=by
 have h:=invariant (Counted limit) (fun _ _ _ h hstep=>h.of_step hstep) (counted_empty limit) hrun
 have hroom:d.pendingData≤(limit:Int)-2:=by
  have hroom:=h.room
  rw[Dispatcher.dataLimit,h.limit,controlSlots] at hroom
  omega
 refine ⟨h.pending,hroom,h.started,h.recovered,?_⟩
 -- whatever is not data fills at most the two control slots
 have hlen:=length_queue d.queue
 have hpd:=h.pending
 have hst:=h.started
 have hrec:=h.recovered
 omega

end

namespace Scenario

def fullQueue:List (Event ℕ ℕ):=
 [.activateConnection 1 7 false,.enqueueData 7 [5],.beginGap 2,.activateConnection 2 8 true,
  .enqueueData 8 [6],.enqueueRecovered 2 8]

theorem full_queue_counted:∃ d:Dispatcher ℕ ℕ,run step {limit:=4} fullQueue=some d∧
  d.pendingData=2∧d.queue.length+d.replacement.length≤4:=
 ⟨_,rfl,rfl,(@pendingData_counted ℕ ℕ 4 _ _ (by decide) fullQueue rfl).2.2.2.2⟩

end Scenario

end BolterTrader.CallbackDispatch
