import BolterTrader.Foundations.Current
import BolterTrader.Foundations.KeyedRows
import BolterTrader.Foundations.Threads
import BolterTrader.Foundations.Transition

/-! The hub that fans one upstream feed out to many clients (`gateway/hub/hub.go`). -/
namespace BolterTrader.GatewayHub
open Foundations Current KeyedRows Threads Transition List Option

structure Key where
 channel:String
 instrument:String:=""
 interval:String:=""
 account:String:=""
 deriving DecidableEq

structure Message (δ:Type) where
 channel:String
 instrument:String
 interval:String
 account:String
 data:δ

structure Wire (δ π:Type) where
 marshal:Message δ→Option π
 disconnected:δ

def Wire.status {δ π:Type} (wire:Wire δ π) (key:Key):Message δ:=
 { channel:=key.channel ++ ".status"
   instrument:=key.instrument
   interval:=key.interval
   account:=key.account
   data:=wire.disconnected}

inductive RunPhase where
 | looping | feeding | failed | waiting | ended
 deriving DecidableEq

structure Topic (π σ:Type) where
 key:Key
 sinks:List σ:=[]
 retained:String→Option π:=fun _=>none
 order:List String:=[]
 cancelled:Bool:=false
 linger:Option ℕ:=none
 phase:RunPhase:=.looping
 backoff:ℕ:=1
 published:List (String×π):=[]

inductive TimerState where
 | armed | fired | over
 deriving DecidableEq

structure Timer where
 topic:ℕ
 state:TimerState:=.armed

structure Delivery (π σ:Type) where
 sink:σ
 key:Key
 topic:ℕ
 payload:π

structure Hub (π σ:Type) where
 topics:Key→Option ℕ:=fun _=>none
 created:List (Topic π σ):=[]
 timers:List Timer:=[]
 closed:Bool:=false
 sent:List (Delivery π σ):=[]

inductive Event (δ σ:Type) where
 | subscribe (key:Key) (sink:σ)
 | unsubscribe (key:Key) (sink:σ)
 | fire (timer:ℕ)
 | expire (timer:ℕ)
 | close
 | emit (topic:ℕ) (message:Message δ) (retain:Bool) (visits:List σ)
 | loop (topic:ℕ)
 | feedEnds (topic:ℕ) (long:Bool)
 | reportEnd (topic:ℕ) (visits:List σ)
 | wake (topic:ℕ)
 | quit (topic:ℕ)

variable {δ π σ:Type}

/-! ## The critical sections -/

def Topic.replay (topic:Topic π σ):List π:=topic.order.filterMap topic.retained

def Topic.retain (topic:Topic π σ) (channel:String) (payload:π):Topic π σ:=
 {topic with
   order:=if (topic.retained channel).isSome then topic.order else topic.order++[channel]
   retained:=Function.update topic.retained channel (some payload)
   published:=topic.published++[(channel,payload)]}

def Timer.stop (timer:Timer):Timer:=if timer.state=.armed then {timer with state:=.over} else timer

def stopLinger (linger:Option ℕ) (timers:List Timer):List Timer:=
 match linger with
 | none=>timers
 | some t=>timers.modify t Timer.stop

def Hub.setTopic (h:Hub π σ) (i:ℕ) (topic:Topic π σ):Hub π σ:={h with created:=h.created.set i topic}

def Hub.openTopic (h:Hub π σ) (key:Key):Hub π σ:=
 {h with
   created:=h.created++[{key}]
   topics:=Function.update h.topics key (some h.created.length)}

section
variable [DecidableEq σ]

def Hub.attach (h:Hub π σ) (i:ℕ) (sink:σ) (topic:Topic π σ):Hub π σ:=
 {h.setTopic i {topic with linger:=none,sinks:=topic.sinks.insert sink} with
   timers:=stopLinger topic.linger h.timers
   sent:=h.sent++topic.replay.map fun payload=>{sink,key:=topic.key,topic:=i,payload}}

def Hub.subscribe (h:Hub π σ) (key:Key) (sink:σ):Option (Hub π σ):=
 if h.closed then some h
 else
  match h.topics key with
  | none=>some ((h.openTopic key).attach h.created.length sink {key})
  | some i=>h.created[i]?.map (h.attach i sink)

def Hub.detach (h:Hub π σ) (i:ℕ) (sink:σ) (topic:Topic π σ):Hub π σ:=
 let sinks:=topic.sinks.filter (· ≠ sink)
 if sinks≠[]∨topic.linger.isSome then h.setTopic i {topic with sinks}
 else
  {h.setTopic i {topic with sinks,linger:=some h.timers.length} with
    timers:=h.timers++[{topic:=i}]}

def Hub.unsubscribe (h:Hub π σ) (key:Key) (sink:σ):Option (Hub π σ):=
 match h.topics key with
 | none=>some h
 | some i=>h.created[i]?.map (h.detach i sink)

end

def Hub.expireTimer (h:Hub π σ) (t:ℕ) (timer:Timer):Hub π σ:=
 {h with timers:=h.timers.set t {timer with state:=.over}}

def Hub.closeTopic (h:Hub π σ) (i:ℕ) (topic:Topic π σ):Hub π σ:=
 {h.setTopic i {topic with cancelled:=true} with topics:=Function.update h.topics topic.key none}

def Hub.lingering (h:Hub π σ) (t:ℕ) (timer:Timer):Bool:=
 match h.created[timer.topic]? with
 | none=>false
 | some topic=>h.topics topic.key=some timer.topic && topic.linger=some t

def Hub.closeAll (h:Hub π σ):Hub π σ:=
 {h with
   closed:=true
   topics:=fun _=>none
   created:=h.created.mapIdx fun i topic=>
    if h.topics topic.key=some i then {topic with cancelled:=true} else topic
   timers:=h.timers.mapIdx fun t timer=>if h.lingering t timer then timer.stop else timer}

def Hub.emit (wire:Wire δ π) (h:Hub π σ) (i:ℕ) (message:Message δ) (retain:Bool) (visits:List σ)
 (topic:Topic π σ):Hub π σ:=
 match wire.marshal message with
 | none=>h
 | some payload=>
  if topic.cancelled then h
  else
   {h.setTopic i (if retain then topic.retain message.channel payload else topic) with
     sent:=h.sent++visits.map fun sink=>{sink,key:=topic.key,topic:=i,payload}}

def Topic.loop (topic:Topic π σ):Topic π σ:={topic with phase:=if topic.cancelled then .ended else .feeding}

def Topic.feedEnds (topic:Topic π σ) (long:Bool):Topic π σ:=
 if topic.cancelled then {topic with phase:=.ended}
 else {topic with phase:=.failed,backoff:=if long then 1 else topic.backoff}

def Topic.wake (topic:Topic π σ):Topic π σ:=
 {topic with phase:=.looping,backoff:=if topic.backoff<30 then 2*topic.backoff else topic.backoff}

def Hub.inPhase (h:Hub π σ) (i:ℕ) (phase:RunPhase):Option (Topic π σ):=
 h.created[i]?.filter fun topic=>topic.phase=phase

variable [DecidableEq σ]

def step (wire:Wire δ π) (h:Hub π σ):Event δ σ→Option (Hub π σ)
 | .subscribe key sink=>h.subscribe key sink
 | .unsubscribe key sink=>h.unsubscribe key sink
 | .fire t=>
  (h.timers[t]?.filter fun timer=>timer.state=.armed).map fun timer=>
   {h with timers:=h.timers.set t {timer with state:=.fired}}
 | .expire t=>
  (h.timers[t]?.filter fun timer=>timer.state=.fired).bind fun timer=>
   h.created[timer.topic]?.map fun topic=>
    if h.topics topic.key=some timer.topic∧topic.sinks=[] then
     (h.expireTimer t timer).closeTopic timer.topic topic
    else h.expireTimer t timer
 | .close=>some h.closeAll
 | .emit i message retain visits=>
  (h.created[i]?.filter fun topic=>visits.isPerm topic.sinks).map (h.emit wire i message retain visits)
 | .loop i=>(h.inPhase i .looping).map fun topic=>h.setTopic i topic.loop
 | .feedEnds i long=>(h.inPhase i .feeding).map fun topic=>h.setTopic i (topic.feedEnds long)
 | .reportEnd i visits=>
  ((h.inPhase i .failed).filter fun topic=>visits.isPerm topic.sinks).map fun topic=>
   (h.emit wire i (wire.status topic.key) false visits topic).setTopic i {topic with phase:=.waiting}
 | .wake i=>(h.inPhase i .waiting).map fun topic=>h.setTopic i topic.wake
 | .quit i=>
  ((h.inPhase i .waiting).filter fun topic=>topic.cancelled).map fun topic=>
   h.setTopic i {topic with phase:=.ended}

theorem Hub.detach_eq (h:Hub π σ) (i:ℕ) (sink:σ) (topic:Topic π σ):
 ∃ linger timers,h.detach i sink topic =
  {h.setTopic i {topic with sinks:=topic.sinks.filter (· ≠ sink),linger} with timers}:=by
 rw[Hub.detach]
 split
 next=>exact ⟨topic.linger,h.timers,rfl⟩
 next=>exact ⟨_,_,rfl⟩

/-! ## What a topic retains -/

def Topic.latest (topic:Topic π σ) (channel:String):Option π:=
 (last? Prod.fst topic.published channel).map Prod.snd

def Topic.channels (topic:Topic π σ):List String:=(topic.published.map Prod.fst).eraseDups

structure Topic.Retains (topic:Topic π σ):Prop where
 order:topic.order=topic.channels
 retained:∀ channel,topic.retained channel=topic.latest channel

section
omit [DecidableEq σ]
variable {topic new:Topic π σ}

theorem Topic.Retains.replay (h:topic.Retains):topic.replay=topic.channels.filterMap topic.latest:=by
 rw[Topic.replay,h.order,funext h.retained]

theorem Topic.latest_isSome_iff (topic:Topic π σ) (channel:String):
 (topic.latest channel).isSome=true ↔ channel∈topic.published.map Prod.fst:=by
 rw[Topic.latest,isSome_map,isSome_iff_ne_none,ne_eq,last?_eq_none_iff]
 simp

theorem Topic.Retains.retain (h:topic.Retains) (channel:String) (payload:π):
 (topic.retain channel payload).Retains:=by
 constructor
 · have hcha:(topic.retain channel payload).channels =
     topic.channels++if channel∈topic.published.map Prod.fst then [] else [channel]:=by
    simp only[Topic.channels,Topic.retain,map_append,map_cons,map_nil,eraseDups_append]
    congr 1
    split
    next hin=>simp_all[List.removeAll]
    next hnew=>
     have hrem: [channel].removeAll (topic.published.map Prod.fst)=[channel]:=by
      simp_all[List.removeAll]
     rw[hrem]
     rfl
   rw[hcha,Topic.retain,h.order,h.retained]
   simp only[Topic.latest_isSome_iff]
   split<;>simp
 · intro other
   simp only[Topic.retain,Topic.latest,Function.update_apply,last?_concat,h.retained other,eq_comm]
   split<;>rfl

structure Topic.SameSeat (new topic:Topic π σ):Prop where
 key:new.key=topic.key
 sinks:new.sinks=topic.sinks
 cancelled:new.cancelled=topic.cancelled
 linger:new.linger=topic.linger

theorem Topic.feedEnds_sameSeat (topic:Topic π σ) (long:Bool):(topic.feedEnds long).SameSeat topic:=by
 rw[Topic.feedEnds]
 split<;>exact ⟨rfl,rfl,rfl,rfl⟩

theorem Topic.feedEnds_retains (h:topic.Retains) (long:Bool):(topic.feedEnds long).Retains:=by
 rw[Topic.feedEnds]
 split<;>exact ⟨h.order,h.retained⟩

end

/-! ## What a step can do -/

inductive Moves (h:Hub π σ):Event δ σ→Hub π σ→Prop where
 | idle {event:Event δ σ}:Moves h event h
 | opened {key:Key} {sink:σ} (hopen:h.closed=false) (hnone:h.topics key=none):
  Moves h (.subscribe key sink) ((h.openTopic key).attach h.created.length sink {key})
 | attached {key:Key} {sink:σ} {i:ℕ} {topic:Topic π σ} (hmap:h.topics key=some i)
  (htopic:h.created[i]?=some topic):Moves h (.subscribe key sink) (h.attach i sink topic)
 | detached {key:Key} {sink:σ} {i:ℕ} {topic:Topic π σ} (hmap:h.topics key=some i)
  (htopic:h.created[i]?=some topic):Moves h (.unsubscribe key sink) (h.detach i sink topic)
 | fired {t:ℕ} {timer:Timer} (htimer:h.timers[t]?=some timer):
  Moves h (.fire t) {h with timers:=h.timers.set t {timer with state:=.fired}}
 | expired {t:ℕ} {timer:Timer} {topic:Topic π σ} (htimer:h.timers[t]?=some timer)
  (htopic:h.created[timer.topic]?=some topic)
  (hstays:¬(h.topics topic.key=some timer.topic∧topic.sinks=[])):
  Moves h (.expire t) (h.expireTimer t timer)
 | lapsed {t:ℕ} {timer:Timer} {topic:Topic π σ} (htimer:h.timers[t]?=some timer)
  (htopic:h.created[timer.topic]?=some topic) (hmap:h.topics topic.key=some timer.topic)
  (hempty:topic.sinks=[]):Moves h (.expire t) ((h.expireTimer t timer).closeTopic timer.topic topic)
 | closed : Moves h .close h.closeAll
 | moved {event:Event δ σ} {i:ℕ} {topic new:Topic π σ} (htopic:h.created[i]?=some topic)
  (hseat:new.SameSeat topic) (hretains:topic.Retains→ new.Retains):Moves h event (h.setTopic i new)
 | published {event:Event δ σ} {i:ℕ} {topic new:Topic π σ} {visits:List σ} {payload:π}
  (htopic:h.created[i]?=some topic) (halive:topic.cancelled=false) (hvisits:visits.Perm topic.sinks)
  (hseat:new.SameSeat topic) (hretains:topic.Retains→ new.Retains):
  Moves h event {h.setTopic i new with
   sent:=h.sent++visits.map fun sink=>{sink,key:=topic.key,topic:=i,payload}}

section
variable {wire:Wire δ π} {h h':Hub π σ} {event:Event δ σ} {i:ℕ} {topic:Topic π σ}

theorem moves_of_emit {message:Message δ} {retain:Bool} {visits:List σ} (htp:h.created[i]?=some topic)
 (hvis:visits.Perm topic.sinks):Moves h event (h.emit wire i message retain visits topic):=by
 rw[Hub.emit]
 split
 next=>exact .idle
 next payload _=>
  split
  next=>exact .idle
  next hali=>
   have hali:topic.cancelled=false:=by simpa using hali
   split
   next=>exact .published htp hali hvis ⟨rfl,rfl,rfl,rfl⟩ fun hret=>hret.retain message.channel payload
   next=>exact .published htp hali hvis ⟨rfl,rfl,rfl,rfl⟩ id

theorem moves_of_reportEnd {message:Message δ} {visits:List σ} (htp:h.created[i]?=some topic)
 (hvis:visits.Perm topic.sinks):
 Moves h event ((h.emit wire i message false visits topic).setTopic i {topic with phase:=.waiting}):=by
 have hret:topic.Retains→Topic.Retains {topic with phase:=.waiting}:=fun h=>⟨h.order,h.retained⟩
 rw[Hub.emit]
 split
 next=>exact .moved htp ⟨rfl,rfl,rfl,rfl⟩ hret
 next payload _=>
  split
  next=>exact .moved htp ⟨rfl,rfl,rfl,rfl⟩ hret
  next hali=>
   simp only[Bool.false_eq_true,if_false,Hub.setTopic,set_set]
   exact .published htp (by simpa using hali) hvis ⟨rfl,rfl,rfl,rfl⟩ hret

theorem moves_of_step (hstep:step wire h event=some h'):Moves h event h':=by
 have hph:∀ {i:ℕ} {phase:RunPhase} {topic:Topic π σ},h.inPhase i phase=some topic →
  h.created[i]?=some topic:=fun htp=>(filter_eq_some_iff.mp htp).1
 cases event with
 | subscribe=>
  simp only[step,Hub.subscribe] at hstep
  split at hstep
  next=>
   cases hstep
   exact .idle
  next hopen=>
   split at hstep
   next hnone=>
    cases hstep
    exact .opened (by simpa using hopen) hnone
   next i hmap=>
    obtain ⟨topic,htp,rfl⟩:=map_eq_some_iff.mp hstep
    exact .attached hmap htp
 | unsubscribe=>
  simp only[step,Hub.unsubscribe] at hstep
  split at hstep
  next=>
   cases hstep
   exact .idle
  next i hmap=>
   obtain ⟨topic,htp,rfl⟩:=map_eq_some_iff.mp hstep
   exact .detached hmap htp
 | fire=>
  obtain ⟨timer,htm,rfl⟩:=map_eq_some_iff.mp hstep
  exact .fired (filter_eq_some_iff.mp htm).1
 | expire=>
  obtain ⟨timer,htm,hexp⟩:=bind_eq_some_iff.mp hstep
  have htm:=(filter_eq_some_iff.mp htm).1
  obtain ⟨topic,htp,hif⟩:=map_eq_some_iff.mp hexp
  split at hif
  next hlap=>
   cases hif
   exact .lapsed htm htp hlap.1 hlap.2
  next hsta=>
   cases hif
   exact .expired htm htp hsta
 | close=>
  cases hstep
  exact .closed
 | emit=>
  obtain ⟨topic,htp,rfl⟩:=map_eq_some_iff.mp hstep
  obtain ⟨htp,hvis⟩:=filter_eq_some_iff.mp htp
  exact moves_of_emit htp (isPerm_iff.mp hvis)
 | loop | wake=>
  obtain ⟨topic,htp,rfl⟩:=map_eq_some_iff.mp hstep
  exact .moved (hph htp) ⟨rfl,rfl,rfl,rfl⟩ fun h=>⟨h.order,h.retained⟩
 | feedEnds i long=>
  obtain ⟨topic,htp,rfl⟩:=map_eq_some_iff.mp hstep
  exact .moved (hph htp) (topic.feedEnds_sameSeat long) fun h=>Topic.feedEnds_retains h long
 | reportEnd=>
  obtain ⟨topic,htp,rfl⟩:=map_eq_some_iff.mp hstep
  obtain ⟨htp,hvis⟩:=filter_eq_some_iff.mp htp
  exact moves_of_reportEnd (hph htp) (isPerm_iff.mp hvis)
 | quit=>
  obtain ⟨topic,htp,rfl⟩:=map_eq_some_iff.mp hstep
  have htp:=hph (filter_eq_some_iff.mp htp).1
  exact .moved htp ⟨rfl,rfl,rfl,rfl⟩ fun h=>⟨h.order,h.retained⟩

end

/-! ## Open topics -/

def Pending (timers:List Timer) (t i:ℕ):Prop:=
 ∃ timer,timers[t]?=some timer∧timer.topic=i∧timer.state≠.over

structure Hub.Linked (h:Hub π σ):Prop where
 mapped:∀ {key:Key} {i:ℕ},h.topics key=some i → ∃ topic,h.created[i]?=some topic∧topic.key=key
 alive:∀ {i:ℕ} {topic:Topic π σ},h.created[i]?=some topic →
  (topic.cancelled=false ↔ h.topics topic.key=some i)
 shut:h.closed=true → ∀ key,h.topics key=none

def Hub.Lingers (h:Hub π σ):Prop:=
 ∀ (i:ℕ) (topic:Topic π σ),h.created[i]?=some topic→ h.topics topic.key=some i →
  (topic.linger=none→ topic.sinks≠[])∧∀ t,topic.linger=some t→ topic.sinks=[]∧Pending h.timers t i

section
omit [DecidableEq σ]
variable {h h':Hub π σ} {i:ℕ} {topic new:Topic π σ}

theorem Hub.Linked.mapped_self (hlk:h.Linked) {key:Key} (hmap:h.topics key=some i)
 (htp:h.created[i]?=some topic):topic.key=key∧h.topics topic.key=some i:=by
 obtain ⟨t,ht,hkey⟩:=hlk.mapped hmap
 grind

theorem Hub.Linked.setTopic (hlk:h.Linked) (htp:h.created[i]?=some topic)
  (hcr:h'.created=h.created.set i new) (hkey:new.key=topic.key)
  (hcan:new.cancelled=topic.cancelled) (htop:h'.topics=h.topics) (hcl:h'.closed=h.closed):
  h'.Linked where
 mapped:=by
  intro key k hmap
  rw[htop] at hmap
  obtain ⟨old,hold,hk⟩:=hlk.mapped hmap
  rw[hcr]
  by_cases hki:k=i
  · grind
  · grind
 alive:=by
  intro k t hk
  rw[hcr] at hk
  rw[htop]
  rcases moved_cases htp hk with ⟨rfl,rfl⟩ | ⟨-,hold⟩
  · rw[hkey,hcan]
    exact hlk.alive htp
  · exact hlk.alive hold
 shut:=by
  rw[htop,hcl]
  exact hlk.shut

theorem Hub.Linked.openTopic (hlk:h.Linked) (hopen:h.closed=false) {key:Key} (hnone:h.topics key=none):
 (h.openTopic key).Linked:=by
 refine ⟨?_,?_,?_⟩
 · intro other k hmap
   rcases put_cases hmap with ⟨rfl,rfl⟩ | ⟨-,hold⟩
   · exact ⟨_,List.getElem?_concat_length,rfl⟩
   · obtain ⟨t,ht,hkey⟩:=hlk.mapped hold
     exact ⟨t,getElem?_started_of_some ht _,hkey⟩
 · intro k t hk
   rcases started_cases hk with ⟨rfl,rfl⟩ | ⟨hlt,hk⟩
   · simp[Hub.openTopic]
   · rw[hlk.alive hk]
     exact ⟨put_of_some hnone,fun hmap=>of_put hmap hlt⟩
 · intro hcl
   cases hopen.symm.trans hcl

theorem Hub.Linked.closeTopic (hlk:h.Linked) (htp:h.created[i]?=some topic)
 (hmap:h.topics topic.key=some i):(h.closeTopic i topic).Linked:=by
 refine ⟨?_,?_,?_⟩
 · intro key k hk
   obtain ⟨hne,hold⟩:=of_take hk
   obtain ⟨t,ht,hkey⟩:=hlk.mapped hold
   have hki:k≠i:=by
    grind
   exact ⟨t,(getElem?_moved_ne htp _ hki).trans ht,hkey⟩
 · intro k t hk
   rcases moved_cases htp hk with ⟨rfl,rfl⟩ | ⟨hne,hk⟩
   · simp[Hub.closeTopic]
   · rw[hlk.alive hk]
     exact ((Shrinks.take hmap).eq_some_iff hne).symm
 · intro hcl
   rw[hlk.shut hcl] at hmap
   cases hmap

theorem Hub.Linked.closeAll (hlk:h.Linked):h.closeAll.Linked:=by
 refine ⟨nofun,?_,fun _ _=>rfl⟩
 intro k t hk
 rw[Hub.closeAll,List.getElem?_mapIdx] at hk
 obtain ⟨old,hold,rfl⟩:=map_eq_some_iff.mp hk
 have hali:=hlk.alive hold
 grind [Hub.closeAll]

theorem Pending.set {timers:List Timer} {t s k:ℕ} {timer new:Timer} (hpd:Pending timers t k)
 (htm:timers[s]?=some timer) (htp:new.topic=timer.topic) (hst:t=s→ new.state≠.over):
 Pending (timers.set s new) t k:=by
 obtain ⟨old,hold,hk,hover⟩:=hpd
 by_cases hts:t=s
 · subst hts
   cases htm.symm.trans hold
   exact ⟨new,getElem?_moved_self htm new,htp.trans hk,hst rfl⟩
 · exact ⟨old,(getElem?_moved_ne htm new hts).trans hold,hk,hover⟩

theorem Pending.stopLinger {timers:List Timer} {t k:ℕ} {linger:Option ℕ} (hpd:Pending timers t k)
 (hoth:linger≠some t):Pending (stopLinger linger timers) t k:=by
 cases linger with
 | none=>exact hpd
 | some s=>
  have hst:s≠t:=fun heq=>hoth (by rw[heq])
  obtain ⟨old,hold,hk,hover⟩:=hpd
  refine ⟨old,?_,hk,hover⟩
  simp[GatewayHub.stopLinger,hst,hold]

theorem Hub.Lingers.moved (hlin:h.Lingers) (htp:h.created[i]?=some topic)
 (hcr:h'.created=h.created.set i new) (hkey:new.key=topic.key) (htop:h'.topics=h.topics)
 (hpd:∀ {t k:ℕ},k≠i→Pending h.timers t k→Pending h'.timers t k)
 (hnew:h.topics topic.key=some i→(new.linger=none→ new.sinks≠[])∧
  ∀ t,new.linger=some t→ new.sinks=[]∧Pending h'.timers t i):h'.Lingers:=by
 intro k t hk hmap
 rw[htop] at hmap
 rw[hcr] at hk
 rcases moved_cases htp hk with ⟨rfl,rfl⟩ | ⟨hne,hk⟩
 · exact hnew (hkey▸hmap)
 · obtain ⟨hsin,htm⟩:=hlin k t hk hmap
   grind

theorem Hub.Lingers.sameSeat (hlin:h.Lingers) (htp:h.created[i]?=some topic) (hseat:new.SameSeat topic)
 (hcr:h'.created=h.created.set i new) (htop:h'.topics=h.topics) (htim:h'.timers=h.timers):
 h'.Lingers:=by
 refine hlin.moved htp hcr hseat.key htop (fun _=>htim▸id) fun hmap=>?_
 rw[hseat.linger,hseat.sinks,htim]
 exact hlin i topic htp hmap

theorem Hub.Lingers.expireTimer (hlin:h.Lingers) {t:ℕ} {timer:Timer} (htm:h.timers[t]?=some timer)
 {k:ℕ} {other:Topic π σ} (hk:h.created[k]?=some other) (hmap:h.topics other.key=some k)
 (hoth:timer.topic≠k∨other.sinks≠[]):
 (other.linger=none→ other.sinks≠[])∧
  ∀ s,other.linger=some s→ other.sinks=[]∧Pending (h.expireTimer t timer).timers s k:=by
 obtain ⟨hsin,hpd⟩:=hlin k other hk hmap
 refine ⟨hsin,fun s hs=>?_⟩
 obtain ⟨hnil,hs⟩:=hpd s hs
 refine ⟨hnil,hs.set htm rfl ?_⟩
 rintro rfl
 obtain ⟨old,hold,hk,-⟩:=hs
 grind

end

section
variable {h h':Hub π σ} {i:ℕ} {topic new:Topic π σ} {sink:σ} {event:Event δ σ}

theorem insert_ne_nil (sinks:List σ) (sink:σ):sinks.insert sink≠[]:=
 ne_nil_of_mem (mem_insert_iff.mpr (.inl rfl))

theorem Hub.Lingers.detach (hlin:h.Lingers) (htp:h.created[i]?=some topic)
 (hmap:h.topics topic.key=some i):(h.detach i sink topic).Lingers:=by
 obtain ⟨hsin,hpd⟩:=hlin i topic htp hmap
 rw[Hub.detach]
 split
 next hsta=>
  refine hlin.moved htp rfl rfl rfl (fun _=>id) fun _=>⟨fun hnone=>?_,fun t ht=>?_⟩
  · grind
  · obtain ⟨hnil,ht⟩:=hpd t ht
    exact ⟨by simp[hnil],ht⟩
 next hlast=>
  refine hlin.moved htp rfl rfl rfl ?_ fun _=>⟨nofun,fun t ht=>?_⟩
  · rintro t k - ⟨timer,htm,hrest⟩
    exact ⟨timer,getElem?_started_of_some htm _,hrest⟩
  · cases ht
    refine ⟨by simpa using (not_or.mp hlast).1,_,List.getElem?_concat_length,rfl,nofun⟩

theorem Hub.Lingers.attach (hlin:h.Lingers) (htp:h.created[i]?=some topic)
 (hmap:h.topics topic.key=some i):(h.attach i sink topic).Lingers:=by
 refine hlin.moved htp rfl rfl rfl ?_ fun _=>⟨fun _=>insert_ne_nil _ _,nofun⟩
 intro t k hne hpd
 refine hpd.stopLinger fun hlg=>?_
 -- the timer that is stopped is the topic's own
 obtain ⟨timer,htm,hk,-⟩:=hpd
 obtain ⟨-,own,hown,hi,-⟩:=(hlin i topic htp hmap).2 t hlg
 grind

theorem created_opened (h:Hub π σ) (key:Key) (sink:σ):
 ((h.openTopic key).attach h.created.length sink {key}).created=h.created++[{key,sinks:=[sink]}]:=by
 simp[Hub.attach,Hub.setTopic,Hub.openTopic]

theorem Hub.Lingers.moves (hlin:h.Lingers) (hlk:h.Linked) (hmv:Moves h event h'):h'.Lingers:=by
 cases hmv with
 | idle=>exact hlin
 | opened=>
  intro k t hk hmap
  rw[created_opened] at hk
  rcases started_cases hk with ⟨rfl,rfl⟩ | ⟨hlt,hk⟩
  · grind
  · exact hlin k t hk (of_put hmap hlt)
 | attached hmap htp=>exact hlin.attach htp (hlk.mapped_self hmap htp).2
 | detached hmap htp=>exact hlin.detach htp (hlk.mapped_self hmap htp).2
 | fired htm=>
  intro k t hk hmap
  obtain ⟨hsin,hpd⟩:=hlin k t hk hmap
  refine ⟨hsin,fun s hs=>?_⟩
  obtain ⟨hnil,hs⟩:=hpd s hs
  exact ⟨hnil,hs.set htm rfl fun _=>nofun⟩
 | @expired t timer topic htm htp hsta=>
  intro k other hk hmap
  refine hlin.expireTimer htm hk hmap ?_
  by_contra hboth
  obtain ⟨hsame,hnil⟩:=not_or.mp hboth
  have hsame:=not_not.mp hsame
  subst hsame
  cases htp.symm.trans hk
  exact hsta ⟨hmap,not_not.mp hnil⟩
 | @lapsed t timer topic htm htp=>
  intro k other hk hoth
  rcases moved_cases htp hk with ⟨rfl,rfl⟩ | ⟨hne,hk⟩
  · exact absurd rfl (of_take hoth).1
  · exact hlin.expireTimer htm hk (of_take hoth).2 (.inl hne.symm)
 | closed=>exact fun _ _ _ hmap=>nomatch hmap
 | moved htp hseat | published htp _ _ hseat=>exact hlin.sameSeat htp hseat rfl rfl rfl

theorem Hub.Linked.moves (hlk:h.Linked) (hmv:Moves h event h'):h'.Linked:=by
 cases hmv with
 | idle=>exact hlk
 | opened hopen hnone=>
  exact (hlk.openTopic hopen hnone).setTopic List.getElem?_concat_length rfl rfl rfl rfl rfl
 | attached hmap htp=>exact hlk.setTopic htp rfl rfl rfl rfl rfl
 | @detached key sink i topic hmap htp=>
  obtain ⟨linger,timers,heq⟩:=h.detach_eq i sink topic
  rw[heq]
  exact hlk.setTopic htp rfl rfl rfl rfl rfl
 | fired | expired=>exact ⟨hlk.mapped,hlk.alive,hlk.shut⟩
 | @lapsed t timer topic htm htp hmap=>
  have hexp:(h.expireTimer t timer).Linked:=⟨hlk.mapped,hlk.alive,hlk.shut⟩
  exact hexp.closeTopic htp hmap
 | closed=>exact hlk.closeAll
 | moved htp hseat | published htp _ _ hseat=>exact hlk.setTopic htp rfl hseat.key hseat.cancelled rfl rfl

end

/-! ## What is sent -/

structure Hub.Attached (h:Hub π σ) (d:Delivery π σ):Prop where
 mapped:h.topics d.key=some d.topic
 sink:∃ topic,h.created[d.topic]?=some topic∧d.sink∈topic.sinks

/-- Topics, their subscribers and their timers belong together. -/
structure Hub.Sound (h:Hub π σ):Prop where
 linked:h.Linked
 lingers:h.Lingers
 retains:∀ topic∈h.created,topic.Retains

omit [DecidableEq σ] in
theorem Hub.sound_new:Hub.Sound ({}:Hub π σ):=⟨⟨nofun,nofun,nofun⟩,fun _ _ _ hmap=>(nomatch hmap),nofun⟩

section
variable {wire:Wire δ π} {h h':Hub π σ} {i:ℕ} {topic new:Topic π σ} {sink:σ} {event:Event δ σ} {key:Key}

omit [DecidableEq σ] in
theorem retains_set (hret:∀ topic∈h.created,topic.Retains) (htp:h.created[i]?=some topic)
 (hnew:topic.Retains→ new.Retains):∀ topic∈h.created.set i new,topic.Retains:=
 forall_moved hret (hnew (hret topic (mem_of_getElem? htp)))

theorem retains_of_moves (hret:∀ topic∈h.created,topic.Retains) (hmv:Moves h event h'):
 ∀ topic∈h'.created,topic.Retains:=by
 cases hmv with
 | @opened key=>
  have hope:∀ topic∈(h.openTopic key).created,topic.Retains:=by
   intro topic htp
   rcases mem_append.mp htp with hold | hnew
   · exact hret topic hold
   · rw[mem_singleton.mp hnew]
     exact ⟨rfl,fun _=>rfl⟩
  exact retains_set hope List.getElem?_concat_length fun h=>⟨h.order,h.retained⟩
 | attached hmap htp | lapsed htm htp=>exact retains_set hret htp fun h=>⟨h.order,h.retained⟩
 | @detached key sink i topic hmap htp=>
  obtain ⟨linger,timers,heq⟩:=h.detach_eq i sink topic
  rw[heq]
  exact retains_set hret htp fun h=>⟨h.order,h.retained⟩
 | closed=>
  intro topic htp
  obtain ⟨k,hk⟩:=mem_iff_getElem?.mp htp
  rw[Hub.closeAll,List.getElem?_mapIdx] at hk
  obtain ⟨old,hold,rfl⟩:=map_eq_some_iff.mp hk
  have hkept:=hret old (mem_of_getElem? hold)
  split
  next=>exact ⟨hkept.order,hkept.retained⟩
  next=>exact hkept
 | moved htp _ hnew | published htp _ _ _ hnew=>exact retains_set hret htp hnew
 | _=>exact hret

theorem Hub.Sound.step (hso:h.Sound) (hstep:GatewayHub.step wire h event=some h'):h'.Sound:=by
 have hmv:=moves_of_step hstep
 exact ⟨hso.linked.moves hmv,hso.lingers.moves hso.linked hmv,retains_of_moves hso.retains hmv⟩

theorem attached_attach (htp:h.created[i]?=some topic) (hmap:h.topics topic.key=some i) (payload:π):
 (h.attach i sink topic).Attached {sink,key:=topic.key,topic:=i,payload}:=
 ⟨hmap,_,getElem?_moved_self htp _,mem_insert_iff.mpr (.inl rfl)⟩

theorem sent_of_moves (hlk:h.Linked) (hmv:Moves h event h'):
 ∃ extra,h'.sent=h.sent++extra∧∀ d∈extra,h'.Attached d:=by
 cases hmv with
 | @opened key=>
  refine ⟨_,rfl,fun d hd=>?_⟩
  obtain ⟨payload,-,rfl⟩:=mem_map.mp hd
  exact attached_attach List.getElem?_concat_length (Function.update_self key _ h.topics) payload
 | attached hmap htp=>
  refine ⟨_,rfl,fun d hd=>?_⟩
  obtain ⟨payload,-,rfl⟩:=mem_map.mp hd
  exact attached_attach htp (hlk.mapped_self hmap htp).2 payload
 | @detached key sink i topic=>
  obtain ⟨linger,timers,heq⟩:=h.detach_eq i sink topic
  rw[heq]
  exact ⟨[],(append_nil _).symm,nofun⟩
 | published htp hali hvis hseat=>
  refine ⟨_,rfl,fun d hd=>?_⟩
  obtain ⟨sink,hsink,rfl⟩:=mem_map.mp hd
  refine ⟨(hlk.alive htp).mp hali,_,getElem?_moved_self htp _,?_⟩
  rw[hseat.sinks]
  exact hvis.mem_iff.mp hsink
 | _=>exact ⟨[],(append_nil _).symm,nofun⟩

theorem cancelled_of_moves (hmv:Moves h event h') (htp:h.created[i]?=some topic)
 (hcan:topic.cancelled=true):∃ topic',h'.created[i]?=some topic'∧topic'.cancelled=true:=by
 have hset:∀ {k:ℕ} {old new:Topic π σ},h.created[k]?=some old→(old.cancelled=true→ new.cancelled=true) →
   ∃ topic',(h.created.set k new)[i]?=some topic'∧topic'.cancelled=true:=by
  intro k old new hold hnew
  by_cases hik:i=k
  · grind
  · grind
 cases hmv with
 | @opened key sink hopen hnone=>
  have hne:i≠h.created.length:=by
   grind
  refine ⟨topic,?_,hcan⟩
  exact (getElem?_moved_ne (List.getElem?_concat_length) _ hne).trans (getElem?_started_of_some htp _)
 | attached hmap hold=>exact hset hold id
 | @detached key sink k old hmap hold=>
  obtain ⟨linger,timers,heq⟩:=h.detach_eq k sink old
  rw[heq]
  exact hset hold id
 | lapsed htm hold=>exact hset hold fun _=>rfl
 | closed=>
  refine ⟨_,List.getElem?_mapIdx.trans (by rw[htp]; rfl),?_⟩
  grind
 | moved hold hseat | published hold _ _ hseat=>exact hset hold fun hc=>hseat.cancelled.trans hc
 | _=>exact ⟨topic,htp,hcan⟩

theorem closed_of_moves (hmv:Moves h event h') (hcl:h.closed=true):h'.closed=true:=by
 cases hmv with
 | @detached key sink i topic=>
  obtain ⟨linger,timers,heq⟩:=h.detach_eq i sink topic
  rw[heq]
  exact hcl
 | closed=>rfl
 | _=>exact hcl

def Hub.Without (key:Key) (sink:σ) (h:Hub π σ):Prop:=
 ∀ (i:ℕ) (topic:Topic π σ),h.topics key=some i→ h.created[i]?=some topic→ sink∉topic.sinks

omit [DecidableEq σ] in
theorem Hub.Without.moved (hwit:h.Without key sink) (htp:h.created[i]?=some topic)
 (hcr:h'.created=h.created.set i new) (htop:∀ k,h'.topics key=some k→ h.topics key=some k)
 (hnew:h.topics key=some i→ sink∉topic.sinks→ sink∉new.sinks):h'.Without key sink:=by
 intro k t hmap hk
 have hmap:=htop k hmap
 rw[hcr] at hk
 rcases moved_cases htp hk with ⟨rfl,rfl⟩ | ⟨-,hk⟩
 · exact hnew hmap (hwit k topic hmap htp)
 · exact hwit k t hmap hk

theorem Hub.Without.moves (hwit:h.Without key sink) (hlk:h.Linked)
 (hev:event≠.subscribe key sink) (hmv:Moves h event h'):h'.Without key sink:=by
 cases hmv with
 | opened=>
  intro k t hmap hk hin
  rw[created_opened] at hk
  rcases put_cases hmap with ⟨rfl,rfl⟩ | ⟨-,hold⟩
  · grind
  · obtain ⟨own,hown,-⟩:=hlk.mapped hold
    cases hk.symm.trans (getElem?_started_of_some hown _)
    exact hwit k t hold hown hin
 | @attached key' sink' k t hmap htp=>
  refine hwit.moved htp rfl (fun _=>id) fun hmapp hout hin=>?_
  rcases mem_insert_iff.mp hin with heq | hin
  · have hsame:=(hlk.mapped_self hmapp htp).1.symm.trans (hlk.mapped_self hmap htp).1
    exact hev (by rw[heq,hsame])
  · exact hout hin
 | @detached key' sink' k t hmap htp=>
  obtain ⟨linger,timers,heq⟩:=h.detach_eq k sink' t
  rw[heq]
  exact hwit.moved htp rfl (fun _=>id) fun _ hout hin=>hout (mem_of_mem_filter hin)
 | @lapsed t timer topic htm htp=>exact hwit.moved htp rfl (fun k hk=>(of_take hk).2) fun _=>id
 | closed=>exact fun _ _ hmap=>nomatch hmap
 | moved htp hseat=>exact hwit.moved htp rfl (fun _=>id) fun _ hout=>hseat.sinks▸hout
 | published htp _ _ hseat=>exact hwit.moved htp rfl (fun _=>id) fun _ hout=>hseat.sinks▸hout
 | _=>exact hwit

theorem Hub.without_unsubscribe (hstep:GatewayHub.step wire h (.unsubscribe key sink)=some h'):
 h'.Without key sink∧h'.sent=h.sent:=by
 simp only[GatewayHub.step,Hub.unsubscribe] at hstep
 split at hstep
 next hnone=>
  cases hstep
  exact ⟨fun i _ hmap=>(nomatch hnone.symm.trans hmap),rfl⟩
 next i hmap=>
  obtain ⟨topic,htp,rfl⟩:=map_eq_some_iff.mp hstep
  obtain ⟨linger,timers,heq⟩:=h.detach_eq i sink topic
  rw[heq]
  refine ⟨fun k t hmapp hk=>?_,rfl⟩
  cases hmap.symm.trans hmapp
  cases (getElem?_moved_self htp _).symm.trans hk
  simp

theorem sent_of_run (inv:Hub π σ→Prop) {ok:Event δ σ→Prop} {P:Delivery π σ→Prop}
 (hstep:∀ h event h',h.Sound→ inv h→ ok event→Moves h event h'→ inv h')
 (hall:∀ h d,h.Sound→ inv h→ h.Attached d→P d) (hso:h.Sound) (hinv:inv h)
 {later:List (Event δ σ)} (hlat:∀ event∈later,ok event) (hrun:run (GatewayHub.step wire) h later=some h'):
 ∃ extra,h'.sent=h.sent++extra∧∀ d∈extra,P d:=by
 have hend:h'.Sound∧inv h'∧∃ extra,h'.sent=h.sent++extra∧∀ d∈extra,P d:=by
  refine invariant_along (fun now=>now.Sound∧inv now∧∃ extra,now.sent=h.sent++extra∧∀ d∈extra,P d)
   ?_ ⟨hso,hinv,[],(append_nil _).symm,nofun⟩ (along_of_forall hlat h) hrun
  rintro now event next ⟨hnow,hinv,extra,hsent,hext⟩ hok hnext
  have hmv:=moves_of_step hnext
  obtain ⟨more,hmore,hatt⟩:=sent_of_moves hnow.linked hmv
  have hnext:=hnow.step hnext
  grind
 exact hend.2.2

omit [DecidableEq σ] in
theorem Hub.Sound.uncancelled (hso:h.Sound) {d:Delivery π σ} (hd:h.Attached d):
 h.closed=false∧∃ topic,h.created[d.topic]?=some topic∧topic.cancelled=false:=by
 obtain ⟨topic,htp,-⟩:=hd.sink
 refine ⟨?_,topic,htp,(hso.linked.alive htp).mpr (hso.linked.mapped_self hd.mapped htp).2⟩
 by_contra hcl
 have hnone:=hso.linked.shut (by simpa using hcl) d.key
 cases hnone.symm.trans hd.mapped

theorem sent_while_open (hso:h.Sound) {later:List (Event δ σ)}
 (hrun:run (GatewayHub.step wire) h later=some h'):
 ∃ extra,h'.sent=h.sent++extra∧∀ d∈extra,h.closed=false∧
  ∀ topic,h.created[d.topic]?=some topic→ topic.cancelled=false:=by
 refine sent_of_run (fun now=>(h.closed=true→ now.closed=true)∧∀ (i:ℕ) (topic:Topic π σ),
  h.created[i]?=some topic→ topic.cancelled=true →
   ∃ topic':Topic π σ,now.created[i]?=some topic'∧topic'.cancelled=true) ?_ ?_ hso
  ⟨id,fun i topic htp hcan=>⟨topic,htp,hcan⟩⟩ (fun _ _=>trivial) hrun
 · rintro now event next - ⟨hcl,hcan⟩-hmv
   refine ⟨fun h=>closed_of_moves hmv (hcl h),fun i topic htp hc=>?_⟩
   obtain ⟨topic',htp',hc⟩:=hcan i topic htp hc
   exact cancelled_of_moves hmv htp' hc
 · rintro now d hnow ⟨hcl,hcan⟩ hd
   obtain ⟨hopen,topic',htp',hali⟩:=hnow.uncancelled hd
   grind

theorem sent_without (hso:h.Sound) (hwit:h.Without key sink) {later:List (Event δ σ)}
 (hlat:∀ event∈later,event≠.subscribe key sink) (hrun:run (GatewayHub.step wire) h later=some h'):
 ∃ extra,h'.sent=h.sent++extra∧∀ d∈extra,d.key=key→ d.sink≠sink:=by
 refine sent_of_run (Hub.Without key sink) (fun now event next hnow hinv hok hmv=>hinv.moves hnow.linked hok hmv)
  ?_ hso hwit hlat hrun
 rintro now d-hinv hd rfl rfl
 obtain ⟨topic,htp,hin⟩:=hd.sink
 exact hinv d.topic topic hd.mapped htp hin

theorem sent_after_close (hsound : h.Sound) {later : List (Event δ σ)}
    (hrun : run (GatewayHub.step wire) h (.close :: later) = some h') : h'.sent = h.sent := by
  obtain ⟨next, hnext, hlater⟩ := run_cons_eq_some.mp hrun
  obtain ⟨extra, hsent, hextra⟩ := sent_while_open (hsound.step hnext) hlater
  cases hnext
  cases extra with
  | nil => rw [hsent, append_nil]; rfl
  | cons d rest => cases (hextra d mem_cons_self).1

theorem sent_after_lapse (hsound : h.Sound) {t : ℕ} {timer : Timer} {topic : Topic π σ}
    (htimer : h.timers[t]? = some timer) (hfired : timer.state = .fired)
    (htopic : h.created[timer.topic]? = some topic) (hmapped : h.topics topic.key = some timer.topic)
    (hempty : topic.sinks = []) {later : List (Event δ σ)}
    (hrun : run (GatewayHub.step wire) h (.expire t :: later) = some h') :
    ∃ extra, h'.sent = h.sent ++ extra ∧ ∀ d ∈ extra, d.topic ≠ timer.topic := by
  obtain ⟨next, hnext, hlater⟩ := run_cons_eq_some.mp hrun
  obtain ⟨extra, hsent, hextra⟩ := sent_while_open (hsound.step hnext) hlater
  have heq : next = (h.expireTimer t timer).closeTopic timer.topic topic := by
    grind [GatewayHub.step]
  have hclosed : next.created[timer.topic]? = some {topic with cancelled := true} := by
    rw [heq]
    exact getElem?_moved_self htopic _
  refine ⟨extra, by rw [hsent, heq]; rfl, fun d hd heq' => ?_⟩
  grind

end

/-- What the hub promises from the state `h` on: an open topic has a sink or a pending linger timer; one
run at most is uncancelled for a key; a late subscriber first gets the latest message of each channel;
and nothing is sent for a topic that was cancelled (`silent`), after `Close` (`closes`), for a topic
whose linger period ended (`lapses`), or to a sink that has left (`left`). -/
structure Hub.Contract (wire : Wire δ π) (h : Hub π σ) : Prop where
  opened : ∀ {key : Key} {i : ℕ}, h.topics key = some i →
    ∃ topic, h.created[i]? = some topic ∧ topic.key = key ∧
      (topic.sinks ≠ [] ∨ ∃ t, topic.linger = some t ∧ Pending h.timers t i)
  oneRun : ∀ {i j : ℕ} {topic other : Topic π σ}, h.created[i]? = some topic →
    h.created[j]? = some other → topic.key = other.key → topic.cancelled = false →
    other.cancelled = false → i = j
  replayed : ∀ {key : Key} {i : ℕ} {topic : Topic π σ}, h.topics key = some i →
    h.created[i]? = some topic → ∀ (sink : σ) (later : List (Event δ σ)) (h' : Hub π σ),
    run (step wire) h (.subscribe key sink :: later) = some h' →
    ∃ extra, h'.sent = h.sent ++ (topic.channels.filterMap topic.latest).map
      (fun payload => {sink, key, topic := i, payload}) ++ extra
  silent : ∀ (later : List (Event δ σ)) (h' : Hub π σ), run (step wire) h later = some h' →
    ∃ extra, h'.sent = h.sent ++ extra ∧ ∀ d ∈ extra, h.closed = false ∧
      ∀ topic, h.created[d.topic]? = some topic → topic.cancelled = false
  closes : ∀ (later : List (Event δ σ)) (h' : Hub π σ),
    run (step wire) h (.close :: later) = some h' → h'.sent = h.sent
  lapses : ∀ {t : ℕ} {timer : Timer} {topic : Topic π σ}, h.timers[t]? = some timer →
    timer.state = .fired → h.created[timer.topic]? = some topic →
    h.topics topic.key = some timer.topic → topic.sinks = [] →
    ∀ (later : List (Event δ σ)) (h' : Hub π σ), run (step wire) h (.expire t :: later) = some h' →
    ∃ extra, h'.sent = h.sent ++ extra ∧ ∀ d ∈ extra, d.topic ≠ timer.topic
  left : ∀ (key : Key) (sink : σ) (later : List (Event δ σ)) (h' : Hub π σ),
    (∀ event ∈ later, event ≠ .subscribe key sink) →
    run (step wire) h (.unsubscribe key sink :: later) = some h' →
    ∃ extra, h'.sent = h.sent ++ extra ∧ ∀ d ∈ extra, d.key = key → d.sink ≠ sink

/-- The hub keeps its contract in every interleaving of its critical sections. -/
theorem hub_contract {wire:Wire δ π} {events:List (Event δ σ)} {h:Hub π σ}
 (hrun:run (step wire) {} events=some h):h.Contract wire:=by
 have hso:h.Sound:=invariant Hub.Sound (fun _ _ _ hso=>hso.step) Hub.sound_new hrun
 refine ⟨?_,?_,?_,fun later h'=>sent_while_open hso,fun later h'=>sent_after_close hso,?_,?_⟩
 · intro key i hmap
   obtain ⟨topic,htp,hkey⟩:=hso.linked.mapped hmap
   obtain ⟨hsin,hpd⟩:=hso.lingers i topic htp (hkey▸hmap)
   refine ⟨topic,htp,hkey,?_⟩
   cases hlg : topic.linger with
   | none=>exact .inl (hsin hlg)
   | some t=>exact .inr ⟨t,rfl,(hpd t hlg).2⟩
 · intro i j topic other hi hj hkey hali hoth
   have hmap:=(hso.linked.alive hi).mp hali
   rw[hkey,(hso.linked.alive hj).mp hoth] at hmap
   exact (some.inj hmap).symm
 · intro key i topic hmap htp sink later h' hrun
   obtain ⟨next,hnext,hlat⟩:=run_cons_eq_some.mp hrun
   obtain ⟨hkey,hmapp⟩:=hso.linked.mapped_self hmap htp
   have hopen:h.closed=false:=by
    by_contra hcl
    cases (hso.linked.shut (by simpa using hcl) key).symm.trans hmap
   have heq:next=h.attach i sink topic:=by
    grind [step,Hub.subscribe]
   obtain ⟨extra,hext,-⟩:=sent_while_open (hso.step hnext) hlat
   refine ⟨extra,?_⟩
   rw[hext,heq,Hub.attach,←(hso.retains topic (mem_of_getElem? htp)).replay,hkey]
 · exact fun htimer hfired htopic hmapped hempty _ _ hrun=>
    sent_after_lapse hso htimer hfired htopic hmapped hempty hrun
 · intro key sink later h' heve hrun
   obtain ⟨next,hnext,hlat⟩:=run_cons_eq_some.mp hrun
   obtain ⟨hwit,hsent⟩:=Hub.without_unsubscribe hnext
   rw[←hsent]
   exact sent_without (hso.step hnext) hwit heve hlat

def servedTwice:List (Event ℕ String):=
 let key : Key:={channel:="book",instrument:="binance:BTC" }
 let book (data:ℕ):Message ℕ:={channel:="book",instrument:="binance:BTC",interval:="",account:="",data}
 let trade : Message ℕ:={channel:="trades",instrument:="binance:BTC",interval:="",account:="",data:=7}
 [.subscribe key "first",.loop 0,.emit 0 (book 1) true ["first"],.emit 0 trade true ["first"],
  .emit 0 (book 2) true ["first"],.subscribe key "second",.unsubscribe key "first",.emit 0 (book 3) true ["second"],
  .unsubscribe key "second",.fire 0,.expire 0,.emit 0 (book 4) true [],.subscribe key "third",
  .emit 1 (book 5) true ["third"],.close,.emit 1 (book 6) true ["third"],.subscribe key "fourth"]

def plainWire:Wire ℕ ℕ where
 marshal message:=some message.data
 disconnected:=0

theorem hub_contract_served :
 ∃ h,run (step plainWire) {} servedTwice=some h∧h.sent.map (fun d=>(d.sink,d.payload)) =
   [("first",1),("first",7),("first",2),("second",2),("second",7),("second",3),("third",5)]∧h.closed=true∧
  h.Contract plainWire:=by
 have hrun:run (step plainWire) {} servedTwice=some _:=rfl
 exact ⟨_,rfl,rfl,rfl,hub_contract hrun⟩

end BolterTrader.GatewayHub
