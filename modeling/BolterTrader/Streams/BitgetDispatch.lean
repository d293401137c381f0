import BolterTrader.Foundations.Ledger
import BolterTrader.Foundations.Transition
import Mathlib.Data.List.Nodup
import Mathlib.Data.List.Range

/-! The data dispatcher of the private Bitget socket (`bitgetPrivateWSDataDispatcher` in
`private_ws.go`): one worker runs the handlers of a queue. -/
namespace BolterTrader.BitgetDispatch
open Foundations Transition List Option

/-! ## The dispatcher -/

structure Dispatch (π:Type) where
 serial:ℕ
 key:String
 payload:π

inductive Worker (π:Type) where
 | idle
 | looping
 | running (entry:Dispatch π)
 | ended

structure Dispatcher (π:Type) where
 queue:List (Dispatch π):=[]
 buffer:List (Dispatch π):=[]
 wake:Bool:=false
 limit:ℕ
 stopped:Bool:=false
 blocked:Bool:=false
 generation:ℕ:=0
 inFlight:Bool:=false
 drain:Option ℕ:=none
 signals:ℕ:=0
 worker:Worker π:=.idle
 made:ℕ:=0
 closed:List ℕ:=[]
 ledger:Ledger (Dispatch π):={}

inductive Event (π:Type) where
 | enqueue (key:String) (payload:π)
 | beginGap (generation:ℕ)
 | resetGapBuffer (generation:ℕ)
 | finishGap (generation:ℕ)
 | dropKey (key:String)
 | stop
 | signal
 | wake
 | take
 | finish

namespace Dispatcher
variable {π:Type}

def enqueue (d:Dispatcher π) (key:String) (payload:π):Dispatcher π:=
 let entry : Dispatch π:=⟨d.ledger.accepted.length,key,payload⟩
 if d.stopped then d
 else if d.blocked then
  if d.limit≤d.buffer.length then d
  else {d with buffer:=d.buffer++[entry],ledger:=d.ledger.accept [entry]}
 else if d.limit≤d.queue.length then d
 else {d with queue:=d.queue++[entry],ledger:=d.ledger.accept [entry],signals:=d.signals+1}

def gapDrain (d:Dispatcher π):ℕ:=if d.inFlight=false∧d.queue=[] then d.made else d.drain.getD d.made

def beginGap (d:Dispatcher π) (generation:ℕ):Dispatcher π:=
 let opened:={d with blocked:=true,generation,buffer:=[],ledger:=d.ledger.drop d.buffer}
 if d.inFlight=false∧d.queue=[] then {opened with made:=d.made+1,closed:=d.closed++[d.made]}
 else
  {opened with
    drain:=some d.gapDrain
    made:=if d.drain=none then d.made+1 else d.made
    signals:=d.signals+1}

def resetGapBuffer (d:Dispatcher π) (generation:ℕ):Dispatcher π:=
 if d.blocked=true∧d.generation=generation then {d with buffer:=[],ledger:=d.ledger.drop d.buffer} else d

def finishGap (d:Dispatcher π) (generation:ℕ):Dispatcher π:=
 if d.stopped=true∨d.blocked=false∨d.generation≠generation then d
 else {d with blocked:=false,queue:=d.queue++d.buffer,buffer:=[],signals:=d.signals+1}

def closeDrain (d:Dispatcher π):Dispatcher π:=
 if d.inFlight=true∨d.queue≠[] then d
 else match d.drain with
  | none=>d
  | some c=>{d with drain:=none,closed:=d.closed++[c]}

def hasKey (key:String) (entry:Dispatch π):Bool:=entry.key == key

def dropKey (d:Dispatcher π) (key:String):Dispatcher π:=
 closeDrain
  {d with
    queue:=d.queue.filter fun entry=>!hasKey key entry
    buffer:=d.buffer.filter fun entry=>!hasKey key entry
    ledger:=d.ledger.drop ((d.queue++d.buffer).filter (hasKey key))}

def stop (d:Dispatcher π):Dispatcher π:=
 {d with
   stopped:=true,queue:=[],buffer:=[],ledger:=d.ledger.drop (d.queue++d.buffer),signals:=d.signals+1}

def take (d:Dispatcher π):Dispatcher π:=
 if d.stopped then {d with worker:=.ended}
 else match d.queue with
  | []=>{d.closeDrain with worker:=.idle}
  | entry::rest=>{d with queue:=rest,inFlight:=true,worker:=.running entry,ledger:=d.ledger.start entry}

def finish (d:Dispatcher π):Dispatcher π:=closeDrain {d with inFlight:=false,worker:=.looping}

end Dispatcher

section
variable {π:Type}

def step (d:Dispatcher π):Event π→Option (Dispatcher π)
 | .enqueue key payload=>some (d.enqueue key payload)
 | .beginGap generation=>some (d.beginGap generation)
 | .resetGapBuffer generation=>some (d.resetGapBuffer generation)
 | .finishGap generation=>some (d.finishGap generation)
 | .dropKey key=>some (d.dropKey key)
 | .stop=>some d.stop
 | .signal=>if 0<d.signals then some {d with signals:=d.signals-1,wake:=true} else none
 | .wake=>
  match d.worker,d.wake with
  | .idle,true=>some {d with wake:=false,worker:=.looping}
  | _,_=>none
 | .take=>
  match d.worker with
  | .looping=>some d.take
  | _=>none
 | .finish=>
  match d.worker with
  | .running _=>some d.finish
  | _=>none

/-! ## What a step can do -/

def Dispatcher.running (d:Dispatcher π):Option (Dispatch π):=
 match d.worker with
 | .running entry=>some entry
 | _=>none

inductive Effect (d:Dispatcher π) (event:Event π) (next:Dispatcher π):Prop where
 | quiet (hqueue:next.queue=d.queue) (hbuffer:next.buffer=d.buffer) (hledger:next.ledger=d.ledger)
  (hblocked:next.blocked=d.blocked) (hrunning:next.running=d.running∨next.running=none)
 | buffered (entry:Dispatch π) (hserial:entry.serial=d.ledger.accepted.length) (hopen:d.blocked=true)
  (hqueue:next.queue=d.queue) (hbuffer:next.buffer=d.buffer++[entry])
  (hledger:next.ledger=d.ledger.accept [entry]) (hblocked:next.blocked=d.blocked)
  (hrunning:next.running=d.running)
 | queued (entry:Dispatch π) (hserial:entry.serial=d.ledger.accepted.length) (hopen:d.blocked=false)
  (hqueue:next.queue=d.queue++[entry]) (hbuffer:next.buffer=d.buffer)
  (hledger:next.ledger=d.ledger.accept [entry]) (hblocked:next.blocked=d.blocked)
  (hrunning:next.running=d.running)
 | dropped (gone:List (Dispatch π)) (hqueue:next.queue.Sublist d.queue) (hbuffer:next.buffer.Sublist d.buffer)
  (hgone:(next.queue++next.buffer++gone).Perm (d.queue++d.buffer))
  (hledger:next.ledger=d.ledger.drop gone) (hblocked:next.blocked=false→ d.blocked=false)
  (hrunning:next.running=d.running)
 | promoted (hevent:event=.finishGap d.generation) (hopen:d.blocked=true)
  (hqueue:next.queue=d.queue++d.buffer) (hbuffer:next.buffer=[]) (hledger:next.ledger=d.ledger)
  (hrunning:next.running=d.running)
 | started (entry:Dispatch π) (hevent:event=.take) (hidle:d.running=none)
  (hqueue:d.queue=entry::next.queue) (hbuffer:next.buffer=d.buffer)
  (hledger:next.ledger=d.ledger.start entry) (hblocked:next.blocked=d.blocked)
  (hrunning:next.running=some entry)

def ClosesIdle (d next:Dispatcher π):Prop:=∀ c∈next.closed,c∈d.closed∨next.queue=[]∧next.running=none

variable {d next:Dispatcher π} {event:Event π}

def Signals (made:ℕ) (closed:List ℕ) (drain:Option ℕ) (next:Dispatcher π):Prop:=
 next.made=made∧(next.closed=closed∧next.drain=drain∨
  (next.queue=[]∧next.inFlight=false)∧next.drain=none∧∃ c,drain=some c∧next.closed=closed++[c])

theorem closeDrain_same (d:Dispatcher π):
 d.closeDrain.queue=d.queue∧d.closeDrain.buffer=d.buffer∧d.closeDrain.ledger=d.ledger∧
  d.closeDrain.blocked=d.blocked∧d.closeDrain.worker=d.worker∧d.closeDrain.inFlight=d.inFlight∧
  Signals d.made d.closed d.drain d.closeDrain:=by
 unfold Dispatcher.closeDrain
 split
 · exact ⟨rfl,rfl,rfl,rfl,rfl,rfl,rfl,.inl ⟨rfl,rfl⟩⟩
 · next hbusy=>
   split
   · exact ⟨rfl,rfl,rfl,rfl,rfl,rfl,rfl,.inl ⟨rfl,rfl⟩⟩
   · next c hdra=>
     have hidle:d.queue=[]∧d.inFlight=false:=by simpa[not_or,and_comm] using hbusy
     exact ⟨rfl,rfl,rfl,rfl,rfl,rfl,rfl,.inr ⟨hidle,rfl,c,hdra,rfl⟩⟩

theorem running_congr (h:next.worker=d.worker):next.running=d.running:=by
 simp only[Dispatcher.running,h]

theorem running_eq_none (h:d.running.isSome=false):d.running=none:=by simpa using h

theorem filter_append_perm_filter_not (p:Dispatch π→Bool) (entries:List (Dispatch π)):
 (entries.filter (fun entry=>!p entry)++entries.filter p).Perm entries:=by
 refine perm_append_comm.trans ?_
 exact filter_append_perm p entries

theorem effect_enqueue (d:Dispatcher π) (key:String) (pld:π):
 Effect d (.enqueue key pld) (d.enqueue key pld):=by
 unfold Dispatcher.enqueue
 dsimp only
 split
 · exact .quiet rfl rfl rfl rfl (.inl rfl)
 · split
   · next hopen=>
     split
     · exact .quiet rfl rfl rfl rfl (.inl rfl)
     · exact .buffered ⟨d.ledger.accepted.length,key,pld⟩ rfl hopen rfl rfl rfl rfl rfl
   · next hopen=>
     split
     · exact .quiet rfl rfl rfl rfl (.inl rfl)
     · exact .queued ⟨d.ledger.accepted.length,key,pld⟩ rfl (by simpa using hopen) rfl rfl rfl rfl rfl

theorem effect_beginGap (d:Dispatcher π) (gen:ℕ):
 Effect d (.beginGap gen) (d.beginGap gen):=by
 have hgone:(d.queue++[]++d.buffer).Perm (d.queue++d.buffer):=by simp
 unfold Dispatcher.beginGap
 dsimp only
 split<;>exact .dropped d.buffer (Sublist.refl _) (nil_sublist _) hgone rfl nofun rfl

theorem effect_dropKey (d:Dispatcher π) (key:String):Effect d (.dropKey key) (d.dropKey key):=by
 unfold Dispatcher.dropKey
 obtain ⟨hq,hbuf,hled,hbl,hwk,-,-⟩:=closeDrain_same
  {d with
    queue:=d.queue.filter fun entry=>!Dispatcher.hasKey key entry
    buffer:=d.buffer.filter fun entry=>!Dispatcher.hasKey key entry
    ledger:=d.ledger.drop ((d.queue++d.buffer).filter (Dispatcher.hasKey key))}
 refine .dropped ((d.queue++d.buffer).filter (Dispatcher.hasKey key)) ?_ ?_ ?_ hled ?_ (running_congr hwk)
 · rw[hq]
   exact filter_sublist
 · rw[hbuf]
   exact filter_sublist
 · rw[hq,hbuf]
   have hperm:=filter_append_perm_filter_not (Dispatcher.hasKey key) (d.queue++d.buffer)
   rwa[filter_append] at hperm
 · rw[hbl]
   exact id

theorem effect_of_step (hstep:step d event=some next):Effect d event next:=by
 cases event with
 | enqueue key pld=>
  cases hstep
  exact effect_enqueue d key pld
 | beginGap gen=>
  cases hstep
  exact effect_beginGap d gen
 | resetGapBuffer=>
  cases hstep
  unfold Dispatcher.resetGapBuffer
  split
  · exact .dropped d.buffer (Sublist.refl _) (nil_sublist _) (by simp) rfl id rfl
  · exact .quiet rfl rfl rfl rfl (.inl rfl)
 | finishGap=>
  cases hstep
  unfold Dispatcher.finishGap
  split
  · exact .quiet rfl rfl rfl rfl (.inl rfl)
  · next hopen=>
    simp only[not_or,Bool.not_eq_true,Bool.not_eq_false,not_not] at hopen
    obtain ⟨-,hbl,rfl⟩:=hopen
    exact .promoted rfl hbl rfl rfl rfl rfl
 | dropKey key=>
  cases hstep
  exact effect_dropKey d key
 | stop=>
  cases hstep
  exact .dropped (d.queue++d.buffer) (nil_sublist _) (nil_sublist _) (Perm.refl _) rfl id rfl
 | signal=>
  obtain ⟨-,hnext⟩:=ite_none_right_eq_some.mp hstep
  cases hnext
  exact .quiet rfl rfl rfl rfl (.inl rfl)
 | wake=>
  simp only[step] at hstep
  split at hstep<;>cases hstep
  exact .quiet rfl rfl rfl rfl (.inr rfl)
 | take=>
  simp only[step] at hstep
  split at hstep
  · next hwk=>
    cases hstep
    have hidle:d.running=none:=by simp only[Dispatcher.running,hwk]
    unfold Dispatcher.take
    split
    · exact .quiet rfl rfl rfl rfl (.inr rfl)
    · split
      · obtain ⟨hq,hbuf,hled,hbl,-⟩:=closeDrain_same d
        exact .quiet hq hbuf hled hbl (.inr rfl)
      · next entry rest hq=>exact .started entry rfl hidle hq rfl rfl rfl rfl
  · cases hstep
 | finish=>
  simp only[step] at hstep
  split at hstep<;>cases hstep
  obtain ⟨hq,hbuf,hled,hbl,hwk,-⟩:=closeDrain_same {d with inFlight:=false,worker:=.looping}
  refine .quiet hq hbuf hled hbl (.inr ?_)
  exact running_congr hwk

theorem signals_of_step (hstep:step d event=some next):
 (d.inFlight=d.running.isSome→ next.inFlight=next.running.isSome)∧
  ((∃ g,event=.beginGap g)∨Signals d.made d.closed d.drain next):=by
 cases event with
 | enqueue | resetGapBuffer | finishGap=>
  cases hstep
  simp only[Dispatcher.enqueue,Dispatcher.resetGapBuffer,Dispatcher.finishGap]
  split_ifs<;>exact ⟨id,.inr ⟨rfl,.inl ⟨rfl,rfl⟩⟩⟩
 | beginGap gen=>
  cases hstep
  refine ⟨fun h=>?_,.inl ⟨gen,rfl⟩⟩
  unfold Dispatcher.beginGap
  dsimp only
  split<;>exact h
 | dropKey key=>
  cases hstep
  obtain ⟨-,-,-,-,hwk,hfl,hsig⟩:=closeDrain_same
   {d with
     queue:=d.queue.filter fun entry=>!Dispatcher.hasKey key entry
     buffer:=d.buffer.filter fun entry=>!Dispatcher.hasKey key entry
     ledger:=d.ledger.drop ((d.queue++d.buffer).filter (Dispatcher.hasKey key))}
  grind [Dispatcher.dropKey,running_congr]
 | stop=>
  cases hstep
  exact ⟨id,.inr ⟨rfl,.inl ⟨rfl,rfl⟩⟩⟩
 | signal=>
  obtain ⟨-,hnext⟩:=ite_none_right_eq_some.mp hstep
  cases hnext
  exact ⟨id,.inr ⟨rfl,.inl ⟨rfl,rfl⟩⟩⟩
 | wake=>
  simp only[step] at hstep
  split at hstep<;>cases hstep
  next hwk _=>exact ⟨fun h=>by simpa only[Dispatcher.running,hwk] using h,.inr ⟨rfl,.inl ⟨rfl,rfl⟩⟩⟩
 | take=>
  simp only[step] at hstep
  split at hstep<;>cases hstep
  next hwk=>
  have hnone:d.running=none:=by simp only[Dispatcher.running,hwk]
  rw[hnone]
  unfold Dispatcher.take
  split
  · exact ⟨id,.inr ⟨rfl,.inl ⟨rfl,rfl⟩⟩⟩
  · split
    · obtain ⟨-,-,-,-,-,hfl,hsig⟩:=closeDrain_same d
      exact ⟨hfl.trans,.inr hsig⟩
    · exact ⟨fun _=>rfl,.inr ⟨rfl,.inl ⟨rfl,rfl⟩⟩⟩
 | finish=>
  simp only[step] at hstep
  split at hstep<;>cases hstep
  obtain ⟨-,-,-,-,hwk,hfl,hsig⟩:=closeDrain_same {d with inFlight:=false,worker:=.looping}
  refine ⟨fun _=>?_,.inr hsig⟩
  rw[Dispatcher.finish,hfl,running_congr hwk]
  rfl

theorem closes_of_step (h:d.inFlight=d.running.isSome) (hstep:step d event=some next):ClosesIdle d next:=by
 obtain ⟨hfl,⟨g,rfl⟩ | ⟨-,⟨hcl,-⟩ | ⟨⟨hq,hidle⟩,-⟩⟩⟩:=signals_of_step hstep
 · cases hstep
   unfold Dispatcher.beginGap
   dsimp only
   split
   · next hidle=>exact fun _ _=>.inr ⟨hidle.2,running_eq_none (h.symm.trans hidle.1)⟩
   · exact fun _ hc=>.inl hc
 · exact fun _ hc=>.inl (hcl▸hc)
 · exact fun _ _=>.inr ⟨hq,running_eq_none ((hfl h).symm.trans hidle)⟩

/-! ## The invariant -/

structure Inv (d:Dispatcher π):Prop where
 balanced:d.ledger.Balanced (d.queue++d.buffer)
 serials:d.ledger.accepted.map (·.serial)=List.range d.ledger.accepted.length
 buffer:d.blocked=false→ d.buffer=[]
 flight:d.inFlight=d.running.isSome
 running:∀ entry,d.running=some entry→ entry∈d.ledger.started

variable {entry:Dispatch π}

theorem serials_concat {acc:List (Dispatch π)} (h:acc.map (·.serial)=List.range acc.length)
 (hser:entry.serial=acc.length):
 (acc++[entry]).map (·.serial)=List.range (acc++[entry]).length:=by
 rw[map_append,h,length_append,map_singleton,hser,length_singleton,range_succ]

theorem Inv.nodup (h:Inv d):d.ledger.accepted.Nodup:=by
 have hseri:(d.ledger.accepted.map (·.serial)).Nodup:=by
  rw[h.serials]
  exact nodup_range
 exact hseri.of_map _

theorem Inv.serial_lt (h:Inv d) (hen:entry∈d.ledger.accepted):entry.serial<d.ledger.accepted.length:=by
 have hmem:entry.serial∈d.ledger.accepted.map (·.serial):=mem_map_of_mem hen
 rw[h.serials] at hmem
 exact mem_range.mp hmem

theorem accepted_of_step (hstep:step d event=some next):
 next.ledger.accepted=d.ledger.accepted∨∃ entry:Dispatch π,entry.serial=d.ledger.accepted.length∧
  next.ledger.accepted=d.ledger.accepted++[entry]:=by
 cases effect_of_step hstep with
 | quiet _ _ hled | promoted _ _ _ _ hled=>exact .inl (by rw[hled])
 | dropped _ _ _ _ hled | started _ _ _ _ _ hled=>exact .inl (by rw[hled]; rfl)
 | buffered entry hser _ _ _ hled | queued entry hser _ _ _ hled=>exact .inr ⟨entry,hser,by rw[hled]; rfl⟩

theorem Inv.of_step (h:Inv d) (hstep:step d event=some next):Inv next:=by
 have hseri:next.ledger.accepted.map (·.serial)=List.range next.ledger.accepted.length:=by
  obtain hsame | ⟨entry,hser,hnew⟩:=accepted_of_step hstep
  · rw[hsame]
    exact h.serials
  · rw[hnew]
    exact serials_concat h.serials hser
 have hfl:=(signals_of_step hstep).1 h.flight
 cases effect_of_step hstep with
 | quiet hq hbuf hled hbl hrn=>
  refine ⟨?_,hseri,?_,hfl,?_⟩
  · rw[hq,hbuf,hled]
    exact h.balanced
  · rw[hbl,hbuf]
    exact h.buffer
  · intro entry hen
    rw[hled]
    obtain hsame | hnone:=hrn
    · exact h.running entry (hsame.symm.trans hen)
    · cases hnone.symm.trans hen
 | buffered entry hser hopen hq hbuf hled hbl hrn=>
  refine ⟨?_,hseri,fun hcl=>?_,hfl,?_⟩
  · rw[hq,hbuf,hled,←append_assoc]
    exact h.balanced.accept [entry]
  · grind
  · rw[hrn,hled]
    exact h.running
 | queued entry hser hopen hq hbuf hled hbl hrn=>
  have hnil:=h.buffer hopen
  refine ⟨?_,hseri,fun _=>hbuf.trans hnil,hfl,?_⟩
  · have hbal:=h.balanced.accept [entry]
    grind
  · rw[hrn,hled]
    exact h.running
 | dropped gone hq hbuf hgone hled hbl hrn=>
  refine ⟨?_,hseri,fun hcl=>?_,hfl,?_⟩
  · rw[hled]
    exact h.balanced.drop (hq.append hbuf) hgone
  · have hnil:=h.buffer (hbl hcl)
    grind
  · rw[hrn,hled]
    exact h.running
 | promoted hev hopen hq hbuf hled hrn=>
  refine ⟨?_,hseri,fun _=>hbuf,hfl,?_⟩
  · rw[hq,hbuf,hled,append_nil]
    exact h.balanced
  · rw[hrn,hled]
    exact h.running
 | started entry hev hidle hq hbuf hled hbl hrn=>
  refine ⟨?_,hseri,?_,hfl,?_⟩
  · have hbal:=h.balanced
    rw[hq,cons_append] at hbal
    rw[hled,hbuf]
    exact hbal.start
  · rw[hbl,hbuf]
    exact h.buffer
  · intro rnn hsome
    cases hrn.symm.trans hsome
    rw[hled]
    exact mem_append_right _ (mem_singleton_self entry)

theorem inv_empty (limit:ℕ):Inv ({limit}:Dispatcher π):=⟨Ledger.balanced_empty,rfl,fun _=>rfl,rfl,nofun⟩

theorem Inv.of_run {evs:List (Event π)} (h:Inv d) (hrun:run step d evs=some next):Inv next:=
 invariant Inv (fun _ _ _ h hstep=>h.of_step hstep) h hrun

/-! ## Dropped entries -/

theorem dropped_subset_of_step (hstep:step d event=some next):d.ledger.dropped ⊆ next.ledger.dropped:=by
 cases effect_of_step hstep with
 | quiet _ _ hled | promoted _ _ _ _ hled | buffered _ _ _ _ _ hled | queued _ _ _ _ _ hled
 | started _ _ _ _ _ hled=>
  rw[hled]
  exact Subset.refl _
 | dropped gone _ _ _ hled=>
  rw[hled]
  exact subset_append_left _ _

theorem accepted_subset_of_step (hstep:step d event=some next):d.ledger.accepted ⊆ next.ledger.accepted:=by
 obtain hsame | ⟨entry,-,hnew⟩:=accepted_of_step hstep
 all_goals grind

theorem Inv.notMem_started_of_dropped {evs:List (Event π)} (h:Inv d) (hen:entry∈d.ledger.dropped)
 (hrun:run step d evs=some next):entry∉next.ledger.started:=by
 have hdro:entry∈next.ledger.dropped:=
  invariant (fun d=>entry∈d.ledger.dropped) (fun _ _ _ hmem hstep=>dropped_subset_of_step hstep hmem) hen hrun
 have hnext:=h.of_run hrun
 exact (hnext.balanced.notMem_of_dropped hnext.nodup hdro).1

theorem Inv.not_both (h:Inv d) (hbuf:entry∈d.buffer):entry∉d.queue∧entry∉d.ledger.started:=by
 have hall:=h.balanced.inOrder.nodup h.nodup
 grind

theorem Inv.leaves_buffer (h:Inv d) (hen:entry∈d.buffer) (hstep:step d event=some next):
 entry∈next.buffer∨(event=.finishGap d.generation∧d.blocked=true)∨entry∈next.ledger.dropped:=by
 cases effect_of_step hstep with
 | quiet _ hbuf | queued _ _ _ _ hbuf | started _ _ _ _ hbuf=>exact .inl (hbuf▸hen)
 | buffered new _ _ _ hbuf=>
  grind
 | promoted hev hopen=>exact .inr (.inl ⟨hev,hopen⟩)
 | dropped gone hq _ hgone hled=>
  have hmem:=hgone.mem_iff.mpr (mem_append_right d.queue hen)
  simp only[mem_append] at hmem
  obtain (hnew | hnew) | hnew:=hmem
  · exact absurd (hq.subset hnew) (h.not_both hen).1
  · exact .inl hnew
  · rw[hled]
    exact .inr (.inr (mem_append_right _ hnew))

theorem Inv.started_after_finishGap {last:Dispatcher π} {aft:List (Event π)} (h:Inv d)
 (hen:entry∈d.buffer) (hrun:run step d aft=some last) (hstd:entry∈last.ledger.started):
 ∃ mid btw rest,aft=mid++.finishGap btw.generation::rest∧
  run step d mid=some btw∧btw.blocked=true∧∀ g,Event.beginGap g∉mid:=by
 induction aft generalizing d with
 | nil=>
  cases hrun
  exact absurd hstd (h.not_both hen).2
 | cons event rest ih=>
  obtain ⟨next,hstep,hrest⟩:=run_cons_eq_some.mp hrun
  obtain hsta | ⟨rfl,hopen⟩ | hdro:=h.leaves_buffer hen hstep
  · obtain ⟨mid,btw,tail,rfl,hmid,hopen,hnone⟩:=ih (h.of_step hstep) hsta hrest
    refine ⟨event::mid,btw,tail,rfl,(run_cons_of_step hstep mid).trans hmid,hopen,fun g hg=>?_⟩
    cases mem_cons.mp hg with
    | inl heq=>
     -- a new gap would have emptied the buffer
     subst heq
     cases hstep
     grind [Dispatcher.beginGap]
    | inr hmem=>exact hnone g hmem
  · exact ⟨[],d,rest,rfl,rfl,hopen,fun g hg=>by cases hg⟩
  · exact absurd hstd ((h.of_step hstep).notMem_started_of_dropped hdro hrest)

/-! ## Drain signals -/

structure Channels (d:Dispatcher π):Prop where
 closed:∀ c∈d.closed,c<d.made
 drain:∀ c,d.drain=some c→ c<d.made∧c∉d.closed

theorem Channels.beginGap (h:Channels d) (gen:ℕ):Channels (d.beginGap gen):=by
 unfold Dispatcher.beginGap
 dsimp only
 split
 · constructor
   · intro c hc
     dsimp only
     cases mem_append.mp hc with
     | inl hold=>
      have hlt:=h.closed c hold
      omega
     | inr hnew=>
      grind
   · intro c hdra
     dsimp only
     obtain ⟨hlt,hopen⟩:=h.drain c hdra
     grind
 · next hbusy=>
   have hgap:d.gapDrain=d.drain.getD d.made:=if_neg hbusy
   cases hdra : d.drain with
   | none=>
    rw[hdra,getD_none] at hgap
    refine ⟨fun c hc=>?_,fun c hc=>?_⟩
    · have hlt:=h.closed c hc
      simp only[if_true]
      omega
    · cases hc
      simp only[hgap,if_true]
      refine ⟨by omega,fun hc=>?_⟩
      have hlt:=h.closed d.made hc
      omega
   | some c=>
    rw[hdra,getD_some] at hgap
    refine ⟨fun c' hc'=>?_,fun c' hc'=>?_⟩
    · simpa using h.closed c' hc'
    · cases hc'
      simpa[hgap] using h.drain c hdra

theorem Channels.of_step (h:Channels d) (hstep:step d event=some next):Channels next:=by
 obtain ⟨g,rfl⟩ | ⟨hmade,⟨hcl,hdra⟩ | ⟨-,hdra,c,hold,hcl⟩⟩:=(signals_of_step hstep).2
 · cases hstep
   exact h.beginGap g
 · constructor
   · rw[hcl,hmade]
     exact h.closed
   · rw[hcl,hmade,hdra]
     exact h.drain
 · refine ⟨fun c' hc'=>?_,by rw[hdra]; nofun⟩
   rw[hcl] at hc'
   rw[hmade]
   cases mem_append.mp hc' with
   | inl hmem=>exact h.closed c' hmem
   | inr hnew=>
    cases mem_singleton.mp hnew
    exact (h.drain c hold).1

structure Passed (c mark:ℕ) (d:Dispatcher π):Prop where
 length:mark≤d.ledger.accepted.length
 buffer:∀ entry∈d.buffer,mark≤entry.serial
 work:c∈d.closed → ∀ entry,entry∈d.queue∨d.running=some entry→ mark≤entry.serial

theorem Passed.of_step {c mark:ℕ} (h:Passed c mark d) (hinv:Inv d) (hstep:step d event=some next):
 Passed c mark next:=by
 have hclo:=closes_of_step hinv.flight hstep
 -- only a channel closed before the step needs an argument
 have hwork (hnew:c∈d.closed → ∀ entry,entry∈next.queue∨next.running=some entry→ mark≤entry.serial)
   (hc:c∈next.closed) (entry:Dispatch π) (hen:entry∈next.queue∨next.running=some entry):
   mark≤entry.serial:=by
  obtain hold | ⟨hnil,hidle⟩:=hclo c hc
  · exact hnew hold entry hen
  · grind
 have hlen:mark≤next.ledger.accepted.length:=by
  obtain hsame | ⟨entry,-,hnew⟩:=accepted_of_step hstep
  · rw[hsame]
    exact h.length
  · rw[hnew,length_append]
    exact Nat.le_add_right_of_le h.length
 cases effect_of_step hstep with
 | quiet hq hbuf hled hbl hrn=>
  refine ⟨hlen,hbuf▸h.buffer,hwork fun hc entry hen=>h.work hc entry ?_⟩
  grind
 | buffered new hser hopen hq hbuf hled hbl hrn=>
  refine ⟨hlen,?_,hwork ?_⟩
  · rw[hbuf]
    intro entry hen
    cases mem_append.mp hen with
    | inl hold=>exact h.buffer entry hold
    | inr hnew=>
     cases mem_singleton.mp hnew
     rw[hser]
     exact h.length
  · rw[hq,hrn]
    exact h.work
 | queued new hser hopen hq hbuf hled hbl hrn=>
  refine ⟨hlen,hbuf▸h.buffer,hwork ?_⟩
  rw[hq,hrn]
  intro hc entry hen
  obtain hmem | hsome:=hen
  · cases mem_append.mp hmem with
    | inl hold=>exact h.work hc entry (.inl hold)
    | inr hnew=>
     cases mem_singleton.mp hnew
     rw[hser]
     exact h.length
  · exact h.work hc entry (.inr hsome)
 | dropped gone hq hbuf hgone hled hbl hrn=>
  refine ⟨hlen,fun entry hen=>h.buffer entry (hbuf.subset hen),hwork ?_⟩
  rw[hrn]
  intro hc entry hen
  exact h.work hc entry (hen.imp_left fun hmem=>hq.subset hmem)
 | promoted hev hopen hq hbuf hled hrn=>
  refine ⟨hlen,?_,hwork ?_⟩
  · rw[hbuf]
    nofun
  · rw[hq,hrn]
    intro hc entry hen
    obtain hmem | hsome:=hen
    · cases mem_append.mp hmem with
      | inl hold=>exact h.work hc entry (.inl hold)
      | inr hnew=>exact h.buffer entry hnew
    · exact h.work hc entry (.inr hsome)
 | started entry hev hidle hq hbuf hled hbl hrn=>
  refine ⟨hlen,hbuf▸h.buffer,hwork ?_⟩
  intro hc oth hoth
  refine h.work hc oth (.inl ?_)
  grind

theorem passed_beginGap (h:Inv d) (hcha:Channels d) (gen:ℕ):
 Passed d.gapDrain d.ledger.accepted.length (d.beginGap gen):=by
 have hgap:d.gapDrain=if d.inFlight=false∧d.queue=[] then d.made else d.drain.getD d.made:=rfl
 unfold Dispatcher.beginGap
 dsimp only
 split
 · next hidle=>
   have hnone:d.running=none:=running_eq_none (h.flight.symm.trans hidle.1)
   refine ⟨le_rfl,nofun,fun _ entry hen=>?_⟩
   obtain hmem | hsome:=hen
   · grind
   · cases hnone.symm.trans hsome
 · next hbusy=>
   rw[if_neg hbusy] at hgap
   refine ⟨le_rfl,nofun,fun hc=>?_⟩
   -- the drain of a busy dispatcher is open
   exfalso
   rw[hgap] at hc
   cases hdra : d.drain with
   | none=>
    rw[hdra,getD_none] at hc
    exact (hcha.closed d.made hc).false
   | some c=>
    rw[hdra,getD_some] at hc
    exact (hcha.drain c hdra).2 hc

theorem Inv.drained {gen:ℕ} {last:Dispatcher π} {aft:List (Event π)} (h:Inv d) (hcha:Channels d)
 (hrun:run step (d.beginGap gen) aft=some last) (hcl:d.gapDrain∈last.closed)
 (hen:entry∈d.ledger.accepted):
 entry∈last.ledger.started∧last.running≠some entry∨entry∈last.ledger.dropped:=by
 have hgap:step d (.beginGap gen)=some (d.beginGap gen):=rfl
 obtain ⟨hlast,hpas⟩:=invariant (fun d'=>Inv d'∧Passed d.gapDrain d.ledger.accepted.length d')
  (fun _ _ _ hboth hstep=>⟨hboth.1.of_step hstep,hboth.2.of_step hboth.1 hstep⟩)
  ⟨h.of_step hgap,passed_beginGap h hcha gen⟩ hrun
 have hacc:entry∈last.ledger.accepted:=
  invariant (fun d'=>entry∈d'.ledger.accepted) (fun _ _ _ hmem hstep=>accepted_subset_of_step hstep hmem)
   (accepted_subset_of_step hgap hen) hrun
 have hold:=h.serial_lt hen
 have hwork (hat:entry∈last.queue∨last.running=some entry):False:=by
  have hmark:=hpas.work hcl entry hat
  omega
 have hbuf (hat:entry∈last.buffer):False:=by
  have hmark:=hpas.buffer entry hat
  omega
 obtain hstd | hwt | hdro:=hlast.balanced.mem_cases hacc
 · grind
 · grind
 · exact .inr hdro

end

/-! ## What the dispatcher promises -/

structure Ordered (π:Type) (limit:ℕ):Prop where
 inOrder:∀ (events:List (Event π)) d,run step {limit} events=some d →
  d.ledger.started.Sublist d.ledger.accepted∧d.ledger.accepted.Nodup
 oneAtATime:∀ (events:List (Event π)) d event next,run step {limit} events=some d →
  step d event=some next→ next.ledger.started≠d.ledger.started →
   d.running=none∧∃ entry,next.running=some entry∧next.ledger.started=d.ledger.started++[entry]
 drained:∀ (before:List (Event π)) d generation after last,run step {limit} before=some d →
  run step (d.beginGap generation) after=some last→ d.gapDrain∈last.closed → ∀ entry∈d.ledger.accepted,
   entry∈last.ledger.started∧last.running≠some entry∨entry∈last.ledger.dropped
 finished:∀ (before:List (Event π)) d key payload after last entry,run step {limit} before=some d →
  d.blocked=true→(d.enqueue key payload).ledger=d.ledger.accept [entry] →
   run step (d.enqueue key payload) after=some last→ entry∈last.ledger.started →
    ∃ mid between rest,after=mid++.finishGap between.generation::rest∧
     run step (d.enqueue key payload) mid=some between∧between.blocked=true∧∀ g,Event.beginGap g∉mid
 superseded:∀ (before:List (Event π)) d event next after last,run step {limit} before=some d →
  (∃ g,event=.beginGap g)∨(event=.resetGapBuffer d.generation∧d.blocked=true) →
   step d event=some next→ run step next after=some last → ∀ entry∈d.buffer,entry∉last.ledger.started

theorem channels_empty {π:Type} (limit:ℕ):Channels ({limit}:Dispatcher π):=⟨nofun,nofun⟩

/-- Data runs in enqueue order, after the gap that held it back. -/
theorem dispatcher_ordered (π:Type) (limit:ℕ):Ordered π limit where
 inOrder events d hrun:=by
  have h:=(inv_empty limit).of_run hrun
  exact ⟨(sublist_append_left _ _).trans h.balanced.inOrder,h.nodup⟩
 oneAtATime events d event next hrun hstep hne:=by
  cases effect_of_step hstep with
  | started entry hev hidle hq hbuf hled hbl hrn=>exact ⟨hidle,entry,hrn,by rw[hled]; rfl⟩
  | quiet _ _ hled | promoted _ _ _ _ hled=>exact absurd (by rw[hled]) hne
  | buffered _ _ _ _ _ hled | queued _ _ _ _ _ hled | dropped _ _ _ _ hled=>
   exact absurd (by rw[hled]; rfl) hne
 drained before d generation after last hbef hrun hcl entry hen:=by
  have hcha:Channels d:=invariant Channels (fun _ _ _ h hstep=>h.of_step hstep) (channels_empty limit) hbef
  exact ((inv_empty limit).of_run hbef).drained hcha hrun hcl hen
 finished before d key payload after last entry hbef hopen hled hrun hstd:=by
  have h:=(inv_empty limit).of_run hbef
  have hstep:step d (.enqueue key payload)=some (d.enqueue key payload):=rfl
  have hacc:(d.enqueue key payload).ledger.accepted=d.ledger.accepted++[entry]:=by rw[hled]; rfl
  refine (h.of_step hstep).started_after_finishGap ?_ hrun hstd
  cases effect_of_step hstep with
  | buffered new _ _ _ hbuf hled'=>
   rw[hled'] at hacc
   have hnew:new=entry:=by simpa[Ledger.accept] using hacc
   grind
  | queued _ _ hnot=>cases hopen.symm.trans hnot
  | quiet _ _ hsame | promoted _ _ _ _ hsame=>
   rw[hsame] at hacc
   simp at hacc
  | started _ _ _ _ _ hsame | dropped _ _ _ _ hsame=>
   rw[hsame] at hacc
   simp[Ledger.start,Ledger.drop] at hacc
 superseded before d event next after last hbef hev hstep hrun entry hen:=by
  have h:=(inv_empty limit).of_run hbef
  refine (h.of_step hstep).notMem_started_of_dropped ?_ hrun
  obtain ⟨g,rfl⟩ | ⟨rfl,hopen⟩:=hev
  · cases hstep
    unfold Dispatcher.beginGap
    dsimp only
    split<;>exact mem_append_right _ hen
  · cases hstep
    rw[Dispatcher.resetGapBuffer,if_pos ⟨hopen,rfl⟩]
    exact mem_append_right _ hen

/-- Entry 1 is accepted in a gap; the drain waits for entry 0, and 1 runs after the gap. -/
example : ∃ d,run step ({limit:=8}:Dispatcher Unit)
 [.enqueue "orders" (),.signal,.beginGap 1,.enqueue "orders" (),.wake,.take,.finish,.finishGap 1,.take] =
  some d∧d.closed=[0]∧d.ledger.started.map (·.serial)=[0,1]:=⟨_,rfl,by decide,by decide⟩

end BolterTrader.BitgetDispatch
