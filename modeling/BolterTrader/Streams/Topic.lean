import BolterTrader.Foundations.Collections
import BolterTrader.Foundations.KeyedRows
import BolterTrader.Foundations.Transition

/-! The topic that shares one native stream among its subscribers
(`websocketTopic` in `exchange/internal/factoryclient/public_websocket.go`). -/
namespace BolterTrader.Streams
open Foundations Foundations.KeyedRows List Option

variable {σ τ ε β:Type}

structure Processing (σ τ ε:Type) where
 process:σ→τ→σ×Except ε Bool
 replay:σ→Option τ

structure Subscriber (τ ε:Type) where
 id:ℕ
 events:List τ:=[]
 errors:List ε:=[]

def Subscriber.receive (subscriber:Subscriber τ ε):Except ε τ→Subscriber τ ε
 | .ok event=>{subscriber with events:=subscriber.events++[event]}
 | .error err=>{subscriber with errors:=subscriber.errors++[err]}

@[simp] theorem Subscriber.receive_id (sbs:Subscriber τ ε) (msg:Except ε τ):
 (sbs.receive msg).id=sbs.id:=by
 cases msg<;>rfl

@[simp] theorem Subscriber.receive_events (sbs:Subscriber τ ε) (msg:Except ε τ):
 (sbs.receive msg).events=sbs.events++msg.toOption.toList:=by
 cases msg with
 | ok=>rfl
 | error=>exact (append_nil _).symm

structure Topic (σ τ ε:Type) where
 state:σ
 subscribers:List (Subscriber τ ε):=[]
 pending:List (ℕ×Except ε τ):=[]
 nextId:ℕ:=0

inductive TopicEvent (τ:Type) where
 | subscribe | close (id:ℕ) | native (event:τ) | deliver (index:ℕ)

def Topic.native (processing:Processing σ τ ε) (topic:Topic σ τ ε) (event:τ):Topic σ τ ε:=
 let outcome:=processing.process topic.state event
 {topic with
   state:=outcome.1
   pending:=
    match outcome.2 with
    | .error err=>topic.subscribers.map fun subscriber=>(subscriber.id,.error err)
    | .ok false=>[]
    | .ok true=>topic.subscribers.map fun subscriber=>(subscriber.id,.ok event)}

def Topic.deliver (topic:Topic σ τ ε) (index:ℕ) (message:ℕ×Except ε τ):Topic σ τ ε:=
 {topic with
   subscribers:=topic.subscribers.map fun subscriber=>
    if subscriber.id=message.1 then subscriber.receive message.2 else subscriber
   pending:=topic.pending.eraseIdx index}

def step (processing:Processing σ τ ε) (topic:Topic σ τ ε):TopicEvent τ→Option (Topic σ τ ε)
 | .subscribe=>
  some {topic with
   subscribers:=topic.subscribers++[{id:=topic.nextId,events:=(processing.replay topic.state).toList}]
   nextId:=topic.nextId+1}
 | .close id=>some {topic with subscribers:=erase Subscriber.id topic.subscribers id}
 | .native event=>if topic.pending.isEmpty then some (topic.native processing event) else none
 | .deliver index=>topic.pending[index]?.map (topic.deliver index)

/-! ## What is still owed to a subscriber -/

def Topic.owed (topic:Topic σ τ ε) (id:ℕ):List τ:=
 ((last? Prod.fst topic.pending id).bind fun message=>message.2.toOption).toList

structure Replays (processing:Processing σ τ ε) (inv:σ→Prop) (view:σ→β) (apply:β→τ→β)
  (empty:β):Prop where
 keeps:∀ state event,inv state→ inv (processing.process state event).1
 accepted:∀ state event,inv state→(processing.process state event).2=.ok true →
  view (processing.process state event).1=apply (view state) event
 dropped:∀ state event,(processing.process state event).2≠.ok true → (processing.process state event).1=state
 replayed:∀ state,inv state→(processing.replay state).toList.foldl apply empty=view state

/-- Every subscriber rebuilds the state of the topic from what it was sent. -/
structure Agrees (inv:σ→Prop) (view:σ→β) (apply:β→τ→β) (empty:β) (topic:Topic σ τ ε):Prop where
 inv:inv topic.state
 unique:Unique Subscriber.id topic.subscribers
 known:∀ subscriber∈topic.subscribers,subscriber.id<topic.nextId
 once:Unique Prod.fst topic.pending
 pendingKnown:∀ message∈topic.pending,message.1<topic.nextId
 agrees:∀ subscriber∈topic.subscribers,
  (subscriber.events++topic.owed subscriber.id).foldl apply empty=view topic.state

section
variable {processing:Processing σ τ ε} {inv:σ→Prop} {view:σ→β} {apply:β→τ→β} {empty:β}
 {topic next:Topic σ τ ε}

theorem owed_of_notMem {id:ℕ} (h:∀ msg∈topic.pending,msg.1≠id):topic.owed id=[]:=by
 rw[Topic.owed,last?_eq_none_iff.mpr h]
 rfl

theorem Agrees.subscribe (h:Agrees inv view apply empty topic) (hrep:Replays processing inv view apply empty):
 Agrees inv view apply empty {topic with
  subscribers:=topic.subscribers++[{id:=topic.nextId,events:=(processing.replay topic.state).toList}]
  nextId:=topic.nextId+1}:=by
 refine ⟨h.inv,?_,?_,h.once,fun msg hmsg=>Nat.lt_succ_of_lt (h.pendingKnown msg hmsg),?_⟩
 · refine unique_append h.unique (nodup_singleton _) ?_
   intro old hold new hnew
   rw[mem_singleton.mp hnew]
   exact Nat.ne_of_lt (h.known old hold)
 · intro sbs hsub
   rcases mem_append.mp hsub with hold | hnew
   · exact Nat.lt_succ_of_lt (h.known sbs hold)
   · grind
 · intro sbs hsub
   rcases mem_append.mp hsub with hold | hnew
   · exact h.agrees sbs hold
   · -- nothing is owed to an id that was not handed out before
     have howed:topic.owed topic.nextId=[]:=
      owed_of_notMem fun msg hmsg=>Nat.ne_of_lt (h.pendingKnown msg hmsg)
     rw[mem_singleton.mp hnew]
     change (_++topic.owed topic.nextId).foldl apply empty=view topic.state
     rw[howed,append_nil]
     exact hrep.replayed topic.state h.inv

theorem Agrees.close (h:Agrees inv view apply empty topic) (id:ℕ):
 Agrees inv view apply empty {topic with subscribers:=erase Subscriber.id topic.subscribers id}:=
 ⟨h.inv,h.unique.erase id,fun sbs hkept=>h.known sbs (mem_of_mem_filter hkept),h.once,
  h.pendingKnown,fun sbs hkept=>h.agrees sbs (mem_of_mem_filter hkept)⟩

theorem pending_native_sublist (topic:Topic σ τ ε) (ev:τ):
 ((topic.native processing ev).pending.map Prod.fst).Sublist (topic.subscribers.map Subscriber.id):=by
 unfold Topic.native
 dsimp only
 split
 · rw[List.map_map]
   exact .refl _
 · exact nil_sublist _
 · rw[List.map_map]
   exact .refl _

theorem owed_of_accepted (hunique:Unique Subscriber.id topic.subscribers) {ev:τ}
 (hok:(processing.process topic.state ev).2=.ok true) {sbs:Subscriber τ ε}
 (hsub:sbs∈topic.subscribers):(topic.native processing ev).owed sbs.id=[ev]:=by
 have honce:Unique Prod.fst (topic.native processing ev).pending:=
  hunique.sublist (pending_native_sublist topic ev)
 have hpd:(topic.native processing ev).pending =
   topic.subscribers.map fun sbs=>(sbs.id,.ok ev):=by
  simp[Topic.native,hok]
 have hlast:last? Prod.fst (topic.native processing ev).pending sbs.id =
   some (sbs.id,.ok ev):=by
  rw[honce.last?_eq_some_iff,hpd]
  exact ⟨mem_map_of_mem hsub,rfl⟩
 rw[Topic.owed,hlast]
 rfl

theorem owed_of_dropped {ev:τ} (h:(processing.process topic.state ev).2≠.ok true) (id:ℕ):
 (topic.native processing ev).owed id=[]:=by
 have herr:∀ msg∈last? Prod.fst (topic.native processing ev).pending id,msg.2.toOption=none:=by
  intro msg hmsg
  have hmem:=mem_of_last? hmsg
  unfold Topic.native at hmem
  dsimp only at hmem
  split at hmem
  · obtain ⟨sbs,-,rfl⟩:=mem_map.mp hmem
    rfl
  all_goals grind
 rw[Topic.owed,bind_eq_none_iff.mpr herr]
 rfl

theorem Agrees.events_of_idle (h:Agrees inv view apply empty topic) (hidle:topic.pending=[]):
 ∀ sbs∈topic.subscribers,sbs.events.foldl apply empty=view topic.state:=by
 intro sbs hsub
 have howed:topic.owed sbs.id=[]:=owed_of_notMem (by simp[hidle])
 have hagr:=h.agrees sbs hsub
 rwa[howed,append_nil] at hagr

theorem Agrees.native (h:Agrees inv view apply empty topic) (hrep:Replays processing inv view apply empty)
 (hidle:topic.pending=[]) (ev:τ):Agrees inv view apply empty (topic.native processing ev):=by
 have hpd:((topic.native processing ev).pending.map Prod.fst).Sublist _:=pending_native_sublist topic ev
 refine ⟨hrep.keeps topic.state ev h.inv,h.unique,h.known,h.unique.sublist hpd,?_,?_⟩
 · intro msg hmsg
   obtain ⟨sbs,hsub,hid⟩:=mem_map.mp (hpd.subset (mem_map_of_mem hmsg))
   exact hid▸h.known sbs hsub
 · intro sbs hsub
   have hbef:=h.events_of_idle hidle sbs hsub
   change (sbs.events++(topic.native processing ev).owed sbs.id).foldl apply empty =
    view (processing.process topic.state ev).1
   by_cases hok:(processing.process topic.state ev).2=.ok true
   · rw[owed_of_accepted h.unique hok hsub,hrep.accepted topic.state ev h.inv hok,←hbef,
      foldl_append]
     rfl
   · rw[owed_of_dropped hok,hrep.dropped topic.state ev hok,append_nil]
     exact hbef

theorem Agrees.deliver (h:Agrees inv view apply empty topic) {ix:ℕ} {message:ℕ×Except ε τ}
 (hmsg:topic.pending[ix]?=some message):Agrees inv view apply empty (topic.deliver ix message):=by
 have hperm:=perm_cons_eraseIdx hmsg
 have howed:∀ id,(topic.deliver ix message).owed id=if message.1=id then [] else topic.owed id:=by
  intro id
  have hlast:last? Prod.fst (topic.deliver ix message).pending id=_:=h.once.last?_rest hperm id
  unfold Topic.owed
  rw[hlast]
  split<;>rfl
 have hids:(topic.deliver ix message).subscribers.map Subscriber.id=topic.subscribers.map Subscriber.id:=by
  rw[Topic.deliver,List.map_map]
  refine map_congr_left fun sbs _=>?_
  dsimp only[Function.comp]
  split<;>simp
 have hmem:message∈topic.pending:=mem_of_getElem? hmsg
 have hunique:KeyedRows.Unique Subscriber.id (topic.deliver ix message).subscribers:=by
  rw[KeyedRows.Unique,hids]
  exact h.unique
 refine ⟨h.inv,hunique,?_,(h.once.perm hperm.symm).of_cons,?_,?_⟩
 · intro sbs hsub
   have hid:sbs.id∈topic.subscribers.map Subscriber.id:=hids▸mem_map_of_mem hsub
   obtain ⟨old,hold,heq⟩:=mem_map.mp hid
   exact heq▸h.known old hold
 · intro oth hoth
   exact h.pendingKnown oth ((eraseIdx_sublist _ _).subset hoth)
 · intro sbs hsub
   obtain ⟨old,hold,rfl⟩:=mem_map.mp hsub
   have hagr:=h.agrees old hold
   by_cases hid:old.id=message.1
   · -- what was owed to the subscriber is now among its events
     have hlast:last? Prod.fst topic.pending old.id=some message:=h.once.last?_eq_some_iff.mpr ⟨hmem,hid.symm⟩
     have hold:topic.owed old.id=message.2.toOption.toList:=by rw[Topic.owed,hlast]; rfl
     rw[if_pos hid,howed,Subscriber.receive_id,if_pos hid.symm,Subscriber.receive_events,←hold,append_nil]
     exact hagr
   · rw[if_neg hid,howed,if_neg (Ne.symm hid)]
     exact hagr

theorem Agrees.step {ev:TopicEvent τ} (h:Agrees inv view apply empty topic)
 (hrep:Replays processing inv view apply empty) (hstep:step processing topic ev=some next):
 Agrees inv view apply empty next:=by
 cases ev with
 | subscribe=>
  cases hstep
  exact h.subscribe hrep
 | close id=>
  cases hstep
  exact h.close id
 | native ev=>
  obtain ⟨hidle,hnext⟩:=ite_none_right_eq_some.mp hstep
  cases hnext
  exact h.native hrep (isEmpty_iff.mp hidle) ev
 | deliver=>
  obtain ⟨msg,hmsg,rfl⟩:=map_eq_some_iff.mp hstep
  exact h.deliver hmsg

theorem agrees_new {state:σ} (hinv:inv state):
 Agrees inv view apply empty ({state}:Topic σ τ ε):=
 ⟨hinv,by simp[KeyedRows.Unique],by simp,by simp[KeyedRows.Unique],by simp,by simp⟩

theorem agrees_of_run (hrep:Replays processing inv view apply empty) {state:σ} (hinv:inv state)
 {evs:List (TopicEvent τ)} (hrun:Transition.run (Streams.step processing) {state} evs=some topic):
 Agrees inv view apply empty topic:=
 Transition.invariant (Agrees inv view apply empty) (fun _ _ _ h hstep=>h.step hrep hstep)
  (agrees_new hinv) hrun

end
end BolterTrader.Streams
