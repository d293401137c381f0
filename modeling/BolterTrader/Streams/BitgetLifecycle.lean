import BolterTrader.Foundations.Transition

/-! The lifecycle queue of the private Bitget socket (`bitgetPrivateWSLifecycleQueue` in
`private_ws.go`) with the reconnects of its client: `launchReconnect` queues a `Started`
after `startReconnectLocked` has released the lock, and one worker calls the callbacks. -/
namespace BolterTrader.Streams.BitgetLifecycle
open Foundations.Transition List Option

inductive Kind where
 | started | recovered
 deriving DecidableEq

def Kind.other:Kind→Kind
 | started=>recovered
 | recovered=>started

inductive Entry where
 | started
 | recovered (generation:UInt64)
 deriving DecidableEq

def Entry.kind:Entry→Kind
 | started=>.started
 | recovered _=>.recovered

inductive Worker where
 | idle
 | started
 | startedTold
 | unchecked (generation:UInt64)
 | passed (generation:UInt64)
 | told (generation:UInt64)
 | skipped | overtaken | applied
 deriving DecidableEq

def Worker.recovering:Worker→Bool
 | idle | started | startedTold=>false
 | unchecked _ | passed _ | told _ | skipped | overtaken | applied=>true

structure Client where
 reconnecting:Bool:=false
 generation:UInt64:=0
 launching:Bool:=false
 queue:List Entry:=[]
 gapOpen:Bool:=false
 worker:Worker:=.idle
 log:List Kind:=[]

inductive Event where
 | disconnect | launch | recover
 | work

namespace Client

def startReconnect (c:Client):Client:={c with reconnecting:=true,generation:=c.generation+1,launching:=true}
def hasStarted (c:Client):Bool:=c.queue.contains .started

def enqueueStarted (c:Client):Client:=
 let filtered:={c with queue:=c.queue.filter fun entry=>entry.kind≠.recovered}
 let removedRecovered:=c.queue.any fun entry=>entry.kind=.recovered
 let needsStarted:=!c.gapOpen || c.worker.recovering && !filtered.hasStarted
 if !removedRecovered && needsStarted then {filtered with queue:=filtered.queue++[.started],gapOpen:=true}
 else filtered

def enqueueRecovered (c:Client):Client:={c with queue:=c.queue++[.recovered c.generation]}
def current (c:Client) (generation:UInt64):Bool:=!c.reconnecting && c.generation == generation

def work (c:Client):Option Client:=
 match c.worker with
 | .idle=>
  match c.queue with
  | []=>none
  | .started::rest=>some {c with queue:=rest,worker:=.started}
  | .recovered generation::rest=>some {c with queue:=rest,worker:=.unchecked generation}
 | .started=>some {c with log:=c.log++[.started],worker:=.startedTold}
 | .unchecked generation=>some {c with worker:=if c.current generation then .passed generation else .skipped}
 | .passed generation=>some {c with log:=c.log++[.recovered],worker:=.told generation}
 | .told generation=>some {c with worker:=if c.current generation then .applied else .overtaken}
 | .startedTold | .skipped | .overtaken=>some {c with worker:=.idle}
 | .applied=>some {c with worker:=.idle,gapOpen:=c.gapOpen && c.hasStarted}

end Client

def step (c:Client):Event→Option Client
 | .disconnect=>if c.reconnecting then none else some c.startReconnect
 | .launch=>if c.launching then some {c.enqueueStarted with launching:=false} else none
 | .recover=>
  if c.reconnecting && !c.launching then some {c.enqueueRecovered with reconnecting:=false} else none
 | .work=>c.work

/-! ## Alternation -/

def Alternates:Kind→List Kind→Prop
 | _,[]=>True
 | kind,first::rest=>first=kind∧Alternates kind.other rest

instance : ∀ kind kinds,Decidable (Alternates kind kinds)
 | _,[]=>.isTrue trivial
 | kind,first::rest=>
  haveI:=instDecidableAlternates kind.other rest
  inferInstanceAs (Decidable (first=kind∧Alternates kind.other rest))

def after:Kind→List Kind→Kind
 | kind,[]=>kind
 | kind,_::rest=>after kind.other rest

theorem alternates_append (kind:Kind) (earlier later:List Kind):
 Alternates kind (earlier++later) ↔ Alternates kind earlier∧Alternates (after kind earlier) later:=by
 induction earlier generalizing kind with
 | nil=>simp[Alternates,after]
 | cons head rest ih=>simp[Alternates,after,ih,and_assoc]

theorem after_append (kind:Kind) (earlier later:List Kind):
 after kind (earlier++later)=after (after kind earlier) later:=by
 induction earlier generalizing kind with
 | nil=>rfl
 | cons head rest ih=>exact ih kind.other

/-! ## Runs in order -/

def Client.due (c:Client):Kind:=after .started c.log

def Worker.flight:Worker→List Kind
 | started=>[.started]
 | unchecked _ | passed _=>[.recovered]
 | _=>[]

def Client.next (c:Client):Kind:=after c.due (c.worker.flight++c.queue.map Entry.kind)

def Worker.Untold:Worker→Prop
 | unchecked _ | skipped=>True
 | _=>False

instance : DecidablePred Worker.Untold
 | .unchecked _ | .skipped=>.isTrue trivial
 | .idle | .started | .startedTold | .passed _ | .told _ | .overtaken | .applied=>.isFalse id

def Orderly (c:Client):Event→Prop
 | .launch=>¬c.worker.Untold
 | .work=>c.worker=.overtaken → .started∈c.queue
 | _=>True

instance (c:Client):∀ event,Decidable (Orderly c event)
 | .launch=>inferInstanceAs (Decidable ¬c.worker.Untold)
 | .work=>inferInstanceAs (Decidable (c.worker=.overtaken → .started∈c.queue))
 | .disconnect | .recover=>.isTrue trivial

inductive Waits : Kind→List Entry→Prop
 | none (kind:Kind):Waits kind []
 | started : Waits .started [.started]
 | recovered (generation:UInt64):Waits .recovered [.recovered generation]
 | both (generation:UInt64):Waits .started [.started,.recovered generation]

inductive Table : Worker→List Entry→Kind→Bool→Prop
 | quiet : Table .idle [] .started false
 | idle {kind queue} (hqueue:Waits kind queue) (hopen:kind=.recovered∨.started∈queue):
  Table .idle queue kind true
 | started {queue} (hqueue:Waits .recovered queue):Table .started queue .started true
 | startedTold {queue} (hqueue:Waits .recovered queue):Table .startedTold queue .recovered true
 | untold {worker:Worker} (huntold:worker.Untold):Table worker [] .recovered true
 | passed (generation) {queue} (hqueue:Waits .started queue):Table (.passed generation) queue .recovered true
 | told (generation) {queue} (hqueue:Waits .started queue):Table (.told generation) queue .started true
 | overtaken {queue} (hqueue:Waits .started queue):Table .overtaken queue .started true
 | applied {queue} (hqueue:Waits .started queue):Table .applied queue .started true

def Worker.Overtaken (current:UInt64→Bool):Worker→Prop
 | passed generation | told generation=>current generation=false
 | overtaken=>True
 | _=>False

structure Inv (c:Client):Prop where
 log:Alternates .started c.log
 table:Table c.worker c.queue c.due c.gapOpen
 launching:c.launching=true→ c.reconnecting=true
 calm:c.worker.Untold∨(∃ generation,.recovered generation∈c.queue)→ c.reconnecting=false∨c.launching=true
 away:c.reconnecting=true→ c.launching=false→ c.next=.recovered
 newer:c.worker.Overtaken c.current→ c.launching=true∨.started∈c.queue

section
variable {c next:Client} {event:Event} {kind:Kind} {queue:List Entry} {worker:Worker} {gapOpen:Bool}

theorem Inv.startReconnect (h:Inv c):Inv c.startReconnect:=
 ⟨h.log,h.table,fun _=>rfl,fun _=>.inr rfl,nofun,fun _=>.inl rfl⟩

def launched (worker:Worker) (queue:List Entry) (gapOpen:Bool):List Entry:=
 if .started∈queue∨queue=[]∧(gapOpen=false∨worker.recovering=true) then [.started] else []

theorem Table.waits (h:Table worker queue kind gapOpen):∃ kind,Waits kind queue:=by
 cases h with
 | quiet | untold _=>exact ⟨.started,.none _⟩
 | idle hq _ | started hq | startedTold hq | passed _ hq | told _ hq | overtaken hq
 | applied hq=>exact ⟨_,hq⟩

theorem Table.open_or_nil (h:Table worker queue kind gapOpen):gapOpen=true∨queue=[]:=by cases h<;>simp

theorem enqueueStarted_eq (h:Table c.worker c.queue c.due c.gapOpen):
 c.enqueueStarted = {c with queue:=launched c.worker c.queue c.gapOpen,gapOpen:=true}:=by
 have hopen:=h.open_or_nil
 obtain ⟨kind,hq⟩:=h.waits
 obtain ⟨reconnect,gen,launch,queue,gapOpen,worker,log⟩:=c
 cases hq<;>cases gapOpen<;>cases hwk : worker.recovering <;>
  simp_all[launched,Client.enqueueStarted,Client.hasStarted,Entry.kind]

theorem launched_of_waits_started (hq:Waits .started queue) (hwk:worker.recovering=true):
 launched worker queue gapOpen=[.started]:=by
 cases hq<;>simp[launched,hwk]

theorem launched_of_waits_recovered (hq:Waits .recovered queue) (hwk:worker.recovering=false):
 launched worker queue true=[]:=by
 cases hq<;>simp[launched,hwk]

theorem Table.launched (h:Table worker queue kind gapOpen) (hunt:¬worker.Untold):
 Table worker (launched worker queue gapOpen) kind true∧
  (launched worker queue gapOpen=[]∧worker.recovering=false∧after kind worker.flight=.recovered∨
   launched worker queue gapOpen=[.started]∧after kind worker.flight=.started):=by
 cases h with
 | quiet=>exact ⟨.idle .started (.inr (by decide)),.inr ⟨rfl,rfl⟩⟩
 | idle hq hopen=>
  cases hq with
  | none=>
   obtain rfl:=hopen.resolve_right not_mem_nil
   exact ⟨.idle (.none _) (.inl rfl),.inl ⟨rfl,rfl,rfl⟩⟩
  | recovered=>exact ⟨.idle (.none _) (.inl rfl),.inl ⟨rfl,rfl,rfl⟩⟩
  | started | both _=>exact ⟨.idle .started (.inr (mem_singleton_self _)),.inr ⟨rfl,rfl⟩⟩
 | started hq=>
  rw[launched_of_waits_recovered hq rfl]
  exact ⟨.started (.none _),.inl ⟨rfl,rfl,rfl⟩⟩
 | startedTold hq=>
  rw[launched_of_waits_recovered hq rfl]
  exact ⟨.startedTold (.none _),.inl ⟨rfl,rfl,rfl⟩⟩
 | untold h=>exact absurd h hunt
 | passed gen hq=>
  rw[launched_of_waits_started hq rfl]
  exact ⟨.passed gen .started,.inr ⟨rfl,rfl⟩⟩
 | told gen hq=>
  rw[launched_of_waits_started hq rfl]
  exact ⟨.told gen .started,.inr ⟨rfl,rfl⟩⟩
 | overtaken hq=>
  rw[launched_of_waits_started hq rfl]
  exact ⟨.overtaken .started,.inr ⟨rfl,rfl⟩⟩
 | applied hq=>
  rw[launched_of_waits_started hq rfl]
  exact ⟨.applied .started,.inr ⟨rfl,rfl⟩⟩

theorem Worker.Overtaken.recovering {current:UInt64→Bool} (h:worker.Overtaken current):
 worker.recovering=true:=by
 cases worker with
 | idle | started | startedTold=>exact h.elim
 | unchecked _ | passed _ | told _ | skipped | overtaken | applied=>rfl

theorem Worker.Overtaken.mono {old current:UInt64→Bool} (hold:∀ gen,old gen=false)
 (h:worker.Overtaken current):worker.Overtaken old:=by
 cases worker with
 | passed gen | told gen=>exact hold gen
 | _=>exact h

theorem Inv.launch (h:Inv c) (hunt:¬c.worker.Untold):
 Inv {c.enqueueStarted with launching:=false}:=by
 rw[enqueueStarted_eq h.table]
 obtain ⟨htab,hq⟩:=h.table.launched hunt
 have hnone:∀ gen,.recovered gen∉BitgetLifecycle.launched c.worker c.queue c.gapOpen:=by
  grind
 have hstd (hwk:c.worker.recovering=true):
   .started∈BitgetLifecycle.launched c.worker c.queue c.gapOpen:=by
  obtain ⟨-,hnot,-⟩ | ⟨hq,-⟩:=hq
  · cases hwk.symm.trans hnot
  · simp[hq]
 refine ⟨h.log,htab,nofun,fun hnt'=>?_,fun _ _=>?_,fun hnewe=>.inr (hstd hnewe.recovering)⟩
 · grind
 · obtain ⟨hq,-,haf⟩ | ⟨hq,haf⟩:=hq
   · simp only[Client.next,hq,after_append]
     exact congrArg (fun kind=>after kind []) haf
   · simp only[Client.next,hq,after_append]
     exact congrArg (fun kind=>after kind [.started]) haf

theorem Waits.concat (h:Waits kind queue) (haf:after kind (queue.map Entry.kind)=.recovered)
 (gen:UInt64):Waits kind (queue++[.recovered gen]):=by
 cases h with
 | none=>
  cases haf
  exact .recovered gen
 | started=>exact .both gen
 | recovered _ | both _=>cases haf

theorem Table.concat (h:Table worker queue kind gapOpen) (hunt:¬worker.Untold)
 (haf:after kind (worker.flight++queue.map Entry.kind)=.recovered) (gen:UInt64):
 Table worker (queue++[.recovered gen]) kind gapOpen:=by
 cases h with
 | quiet=>cases haf
 | idle hq hopen=>exact .idle (hq.concat haf gen) (hopen.imp_right (mem_append_left _))
 | started hq=>exact .started (hq.concat haf gen)
 | startedTold hq=>exact .startedTold (hq.concat haf gen)
 | untold h=>exact absurd h hunt
 | passed g hq=>exact .passed g (hq.concat haf gen)
 | told g hq=>exact .told g (hq.concat haf gen)
 | overtaken hq=>exact .overtaken (hq.concat haf gen)
 | applied hq=>exact .applied (hq.concat haf gen)

theorem Inv.recover (h:Inv c) (haway:c.reconnecting=true) (hlaun:c.launching=false):
 Inv {c.enqueueRecovered with reconnecting:=false}:=by
 have hunt:¬c.worker.Untold:=fun hunt=>by
  have:=h.calm (.inl hunt)
  simp[haway,hlaun] at this
 refine ⟨h.log,h.table.concat hunt (h.away haway hlaun) _,?_,fun _=>.inl rfl,nofun,?_⟩
 · intro hlau
   cases hlaun.symm.trans hlau
 · intro hnewe
   exact (h.newer (hnewe.mono fun _=>by simp[Client.current,haway])).imp_right (mem_append_left _)

theorem Inv.moved (h:Inv c) {due:Kind} (hdue:c.due=due) {log:List Kind} (hlog:Alternates .started log)
 (hkind:after .started log=kind) (htab:Table worker queue kind gapOpen)
 (hcalm:worker.Untold∨(∃ gen,.recovered gen∈queue) →
  c.worker.Untold∨∃ gen,.recovered gen∈c.queue)
 (hnext:after kind (worker.flight++queue.map Entry.kind) =
   after due (c.worker.flight++c.queue.map Entry.kind)∨
  after kind (worker.flight++queue.map Entry.kind)=.recovered)
 (hnewe:worker.Overtaken c.current→ c.launching=true∨.started∈queue):
 Inv {c with log,worker,queue,gapOpen}:=by
 subst hdue hkind
 refine ⟨hlog,htab,h.launching,fun hunt=>h.calm (hcalm hunt),fun haway hlaun=>?_,hnewe⟩
 obtain hsame | hrec:=hnext
 · exact hsame.trans (h.away haway hlaun)
 · exact hrec

theorem Inv.work (h:Inv c) (hord:c.worker=.overtaken → .started∈c.queue) (hstep:c.work=some next):
 Inv next:=by
 obtain ⟨reconnect,gen,launch,queue,gapOpen,worker,log⟩:=c
 have htab:=h.table
 have hnewe:=h.newer
 simp only[Client.due,Client.work] at htab hstep hord hnewe
 generalize hdue : after .started log=due at htab
 cases htab with
 | quiet=>cases hstep
 | idle hq=>
  cases hq with
  | none=>cases hstep
  | started=>
   cases hstep
   exact h.moved hdue h.log hdue (.started (.none _)) (by rintro (hunt | ⟨_,hmem⟩)<;>contradiction) (.inl rfl) False.elim
  | recovered g=>
   cases hstep
   exact h.moved hdue h.log hdue (.untold trivial) (fun _=>.inr ⟨g,mem_singleton_self _⟩) (.inl rfl)
    False.elim
  | both g=>
   cases hstep
   exact h.moved hdue h.log hdue (.started (.recovered g)) (fun _=>.inr ⟨g,by simp⟩) (.inl rfl) False.elim
 | started hq=>
  cases hstep
  refine h.moved hdue ((alternates_append _ _ _).mpr ⟨h.log,hdue.symm,trivial⟩) ?_ (.startedTold hq)
   (.imp_left False.elim) (.inl rfl) False.elim
  rw[after_append,hdue]
  rfl
 | startedTold hq=>
  cases hstep
  exact h.moved hdue h.log hdue (.idle hq (.inl rfl)) (.imp_left False.elim) (.inl rfl) False.elim
 | untold hunt=>
  cases worker with
  | unchecked g=>
   cases hstep
   split
   · next hcurr=>
     refine h.moved hdue h.log hdue (.passed g (.none _)) (fun _=>.inl trivial) (.inl rfl) fun hover=>?_
     cases hcurr.symm.trans hover
   · exact h.moved hdue h.log hdue (.untold trivial) (fun _=>.inl trivial) (.inr rfl) False.elim
  | skipped=>
   cases hstep
   exact h.moved hdue h.log hdue (.idle (.none _) (.inl rfl)) (fun _=>.inl trivial) (.inr rfl) False.elim
  | _=>exact hunt.elim
 | passed g hq=>
  cases hstep
  refine h.moved hdue ((alternates_append _ _ _).mpr ⟨h.log,hdue.symm,trivial⟩) ?_ (.told g hq)
   (.imp_left False.elim) (.inl rfl) hnewe
  rw[after_append,hdue]
  rfl
 | told g hq=>
  cases hstep
  split
  · exact h.moved hdue h.log hdue (.applied hq) (.imp_left False.elim) (.inl rfl) False.elim
  · next hcurr=>
    exact h.moved hdue h.log hdue (.overtaken hq) (.imp_left False.elim) (.inl rfl) fun _=>
     hnewe (Bool.eq_false_iff.mpr hcurr)
 | overtaken hq=>
  cases hstep
  exact h.moved hdue h.log hdue (.idle hq (.inr (hord rfl))) (.imp_left False.elim) (.inl rfl) False.elim
 | applied hq=>
  cases hstep
  have htab:Table .idle queue .started (queue.contains .started):=by
   cases hq with
   | none=>exact .quiet
   | started=>exact .idle .started (.inr (mem_singleton_self _))
   | both g=>exact .idle (.both g) (.inr mem_cons_self)
  exact h.moved hdue h.log hdue htab (.imp_left False.elim) (.inl rfl) False.elim

theorem Inv.step (h:Inv c) (hord:Orderly c event) (hstep:step c event=some next):Inv next:=by
 cases event with
 | disconnect=>
  obtain ⟨-,hnext⟩:=ite_none_left_eq_some.mp hstep
  cases hnext
  exact h.startReconnect
 | launch=>
  obtain ⟨-,hnext⟩:=ite_none_right_eq_some.mp hstep
  cases hnext
  exact h.launch hord
 | recover=>
  obtain ⟨haway,hnext⟩:=ite_none_right_eq_some.mp hstep
  cases hnext
  simp only[Bool.and_eq_true,Bool.not_eq_true'] at haway
  exact h.recover haway.1 haway.2
 | work=>exact h.work hord hstep

theorem inv_new:Inv {}:=⟨trivial,.quiet,nofun,by rintro (hunt | ⟨_,hmem⟩)<;>contradiction,nofun,False.elim⟩

theorem not_alternates {log:List Kind} (h:after .started log≠kind):¬Alternates .started (log++[kind]):=
 fun halt=>h ((alternates_append _ _ _).mp halt).2.1.symm

theorem alternation_broken (h:Inv c) (hstep:step c event=some next) (hbreak:¬Orderly c event):
 ∃ later d,run step next later=some d∧¬Alternates .started d.log:=by
 obtain ⟨reconnecting,generation,launching,queue,gapOpen,worker,log⟩:=c
 have htab:=h.table
 have hlau:=h.launching
 have hnewe:=h.newer
 simp only[Client.due] at htab hlau hnewe
 generalize hdue : after .started log=due at htab
 cases event with
 | disconnect | recover=>exact absurd trivial hbreak
 | launch=>
  obtain ⟨hla,hnext⟩:=ite_none_right_eq_some.mp hstep
  cases hnext
  cases hlau hla
  have hunt:worker.Untold:=not_not.mp hbreak
  cases htab with
  | untold _=>
   cases worker with
   | unchecked g=>exact ⟨[.work,.work,.work,.work],_,rfl,not_alternates (hdue.trans_ne (by decide))⟩
   | skipped=>exact ⟨[.work,.work,.work],_,rfl,not_alternates (hdue.trans_ne (by decide))⟩
   | _=>exact hunt.elim
  | _=>exact hunt.elim
 | work=>
  obtain ⟨rfl,hnone⟩:=Classical.not_imp.mp hbreak
  cases hstep
  cases (hnewe trivial).resolve_right hnone
  cases hlau rfl
  cases htab with
  | untold hunt=>exact hunt.elim
  | overtaken hq=>
   cases hq with
   | started | both _=>exact absurd mem_cons_self hnone
   | none=>
    refine ⟨[.launch,.recover,.work,.work,.work],
     {generation,gapOpen:=true,worker:=.told generation,log:=log++[.recovered]},?_,
     not_alternates (hdue.trans_ne (by decide))⟩
    simp[run,BitgetLifecycle.step,Client.enqueueStarted,Client.enqueueRecovered,Client.work,Client.current,
     Worker.recovering]

end

/-- The callbacks of an orderly run alternate, beginning with `Started`. -/
theorem callbacks_alternate_of_orderly (events:List Event) (c:Client) (hrun:run step {} events=some c)
 (horderly:Along step Orderly {} events):Alternates .started c.log:=
 (invariant_along Inv (fun _ _ _ h hord hstep=>h.step hord hstep) inv_new horderly hrun).log

def firstGap:List Event:=[.disconnect,.launch,.work,.work,.work,.recover,.work]
def skippedRun:List Event:=firstGap++[.disconnect,.launch,.work,.work,.work,.work]
def overtakenRun:List Event:=firstGap++[.work,.disconnect,.launch,.work,.work,.work,.work,.work]

theorem overtaken_recovery_told:∃ c,run step {} overtakenRun=some c∧c.log=[.started,.recovered,.started]∧
 Alternates .started c.log:=
 ⟨_,rfl,rfl,callbacks_alternate_of_orderly overtakenRun _ rfl (by decide)⟩

theorem skipped_recovery_starts_twice:∃ c,run step {} skippedRun=some c∧c.log=[.started,.started]∧
 ¬Alternates .started c.log:=
 ⟨_,rfl,rfl,by decide⟩

end BolterTrader.Streams.BitgetLifecycle
