import BolterTrader.Foundations.Current
import BolterTrader.Foundations.Threads
import BolterTrader.Foundations.Transition

/-! When the native stream of a shared topic is started and stopped
(`watchWebSocketTopic`, `removeWebSocketTopicSubscription`,
`closeFailedSubscription` and `publicWebSocket.Close` in
`exchange/internal/factoryclient/public_websocket.go`). -/
namespace BolterTrader.TopicLifecycle
open Foundations Current Threads Transition List Option

inductive Launch where
 | running | returned (ok:Bool) | settled (ok:Bool)
 deriving DecidableEq

def Launch.outcome:Launch→Option Bool
 | .running=>none
 | .returned ok=>some ok
 | .settled ok=>some ok

structure WebsocketTopic (κ:Type) where
 key:κ
 subscriptions:List ℕ
 launch:Launch:=.running
 failed:Bool:=false
 stop:Bool:=false

def WebsocketTopic.starting {κ:Type} (topic:WebsocketTopic κ):Bool:=
 match topic.launch with
 | .settled _=>false
 | _=>true

inductive CloseStage where
 | idle | removing | done
 deriving DecidableEq

structure Subscription where
 topic:ℕ
 closed:Bool:=false
 stage:CloseStage:=.idle
 watching:Bool:=true

inductive NativeCall where
 | start (topic:ℕ) (ok:Bool) | stop (topic:ℕ)
 deriving DecidableEq

def NativeCall.topic:NativeCall→ℕ
 | .start topic _=>topic
 | .stop topic=>topic

structure Socket (κ:Type) where
 closed:Bool:=false
 created:List (WebsocketTopic κ):=[]
 topics:κ→Option ℕ:=fun _=>none
 subscriptions:List Subscription:=[]
 owed:List ℕ:=[]
 sweep:List ℕ:=[]
 native:List NativeCall:=[]

inductive Event (κ:Type) where
 | watch (key:κ)
 | start (topic:ℕ) (ok:Bool)
 | settle (topic:ℕ)
 | report (subscription:ℕ)
 | close (subscription:ℕ)
 | remove (subscription:ℕ)
 | stop (index:ℕ)
 | closeSocket
 | sweep

variable {κ:Type}

/-! ## The critical sections -/

section
variable [DecidableEq κ]

def Socket.setTopic (s:Socket κ) (i:ℕ) (topic:WebsocketTopic κ):Socket κ:=
 {s with created:=s.created.set i topic}

def Socket.setSubscription (s:Socket κ) (j:ℕ) (subscription:Subscription):Socket κ:=
 {s with subscriptions:=s.subscriptions.set j subscription}

def Socket.unmap (s:Socket κ) (key:κ):Socket κ:={s with topics:=Function.update s.topics key none}

def Socket.createTopic (s:Socket κ) (key:κ):Socket κ:=
 {s with
   created:=s.created++[{key,subscriptions:=[s.subscriptions.length]}]
   topics:=Function.update s.topics key (some s.created.length)
   subscriptions:=s.subscriptions++[{topic:=s.created.length}]}

def Socket.joinTopic (s:Socket κ) (i:ℕ) (topic:WebsocketTopic κ):Socket κ:=
 {s.setTopic i {topic with subscriptions:=topic.subscriptions++[s.subscriptions.length]} with
   subscriptions:=s.subscriptions++[{topic:=i}]}

def Socket.watch (s:Socket κ) (key:κ):Option (Socket κ):=
 if s.closed then some s
 else
  match s.topics key with
  | none=>some (s.createTopic key)
  | some i=>s.created[i]?.map (s.joinTopic i)

def Socket.startReturned (s:Socket κ) (i:ℕ) (ok:Bool) (topic:WebsocketTopic κ):Socket κ:=
 {s.setTopic i {topic with launch:=.returned ok} with native:=s.native++[.start i ok]}

def WebsocketTopic.settle (topic:WebsocketTopic κ) (closed ok:Bool):WebsocketTopic κ:=
 {topic with launch:=.settled ok,failed:=closed || !ok,stop:=ok && !topic.subscriptions.isEmpty}

def Socket.settle (s:Socket κ) (i:ℕ) (ok:Bool) (topic:WebsocketTopic κ):Socket κ:=
 let settled:=topic.settle s.closed ok
 let out:=(settled.failed || topic.subscriptions.isEmpty)∧s.topics topic.key=some i
 {s.setTopic i settled with
   topics:=if out then Function.update s.topics topic.key none else s.topics
   owed:=s.owed++if topic.subscriptions.isEmpty && ok then [i] else []}

def Socket.report (s:Socket κ) (j:ℕ) (subscription:Subscription) (topic:WebsocketTopic κ):Socket κ:=
 s.setSubscription j
  {subscription with watching:=false,closed:=topic.failed || s.closed || subscription.closed}

def Socket.beginClose (s:Socket κ) (j:ℕ) (subscription:Subscription):Socket κ:=
 s.setSubscription j {subscription with closed:=true,stage:=.removing}

def Socket.leaveTopic (s:Socket κ) (j i:ℕ) (topic:WebsocketTopic κ):Socket κ:=
 s.setTopic i {topic with subscriptions:=topic.subscriptions.filter (· ≠ j)}

def Socket.dropTopic (s:Socket κ) (i:ℕ) (topic:WebsocketTopic κ):Socket κ:=
 {s.unmap topic.key with owed:=s.owed++if topic.stop then [i] else []}

def Socket.remove (s:Socket κ) (j:ℕ) (subscription:Subscription):Option (Socket κ):=
 s.created[subscription.topic]?.bind fun own=>
  let s':=s.setSubscription j {subscription with stage:=.done}
  match s.topics own.key with
  | none=>some s'
  | some i=>
   s.created[i]?.map fun topic=>
    let left:=s'.leaveTopic j i topic
    if topic.subscriptions.filter (· ≠ j)≠[]∨topic.starting=true then left else left.dropTopic i topic

def Socket.callStop (s:Socket κ) (index i:ℕ):Socket κ:=
 {s with owed:=s.owed.eraseIdx index,native:=s.native++[.stop i]}

def Socket.listed (s:Socket κ) (j:ℕ):Bool:=
 match s.subscriptions[j]?.bind fun subscription=>(s.created[subscription.topic]?).map (subscription.topic,·) with
 | none=>false
 | some (i,topic)=>s.topics topic.key=some i && topic.subscriptions.contains j

def Socket.shut (s:Socket κ):Socket κ:=
 {s with closed:=true,sweep:=(List.range s.subscriptions.length).filter s.listed}

def step (s:Socket κ):Event κ→Option (Socket κ)
 | .watch key=>s.watch key
 | .start i ok=>(s.created[i]?.filter fun topic=>topic.launch=.running).map (s.startReturned i ok)
 | .settle i=>
  s.created[i]?.bind fun topic=>
   match topic.launch with
   | .returned ok=>some (s.settle i ok topic)
   | _=>none
 | .report j=>
  (s.subscriptions[j]?.filter fun subscription=>subscription.watching).bind fun subscription=>
   (s.created[subscription.topic]?.filter fun topic=>!topic.starting).map (s.report j subscription)
 | .close j=>(s.subscriptions[j]?.filter fun subscription=>subscription.stage=.idle).map (s.beginClose j)
 | .remove j=>(s.subscriptions[j]?.filter fun subscription=>subscription.stage=.removing).bind (s.remove j)
 | .stop index=>s.owed[index]?.map (s.callStop index)
 | .closeSocket=>if s.closed then none else some s.shut
 | .sweep=>
  match s.sweep with
  | []=>none
  | j::rest=>
   (s.subscriptions[j]?.filter fun subscription=>subscription.stage=.done).map fun _=>{s with sweep:=rest}

inductive Moves (s:Socket κ):Event κ→Socket κ→Prop where
 | refused {key:κ} (hclosed:s.closed=true):Moves s (.watch key) s
 | created {key:κ} (hopen:s.closed=false) (hnone:s.topics key=none):Moves s (.watch key) (s.createTopic key)
 | joined {key:κ} {i:ℕ} {topic:WebsocketTopic κ} (hopen:s.closed=false) (hmap:s.topics key=some i)
  (htopic:s.created[i]?=some topic):Moves s (.watch key) (s.joinTopic i topic)
 | started {i:ℕ} {ok:Bool} {topic:WebsocketTopic κ} (htopic:s.created[i]?=some topic)
  (hlaunch:topic.launch=.running):Moves s (.start i ok) (s.startReturned i ok topic)
 | settled {i:ℕ} {ok:Bool} {topic:WebsocketTopic κ} (htopic:s.created[i]?=some topic)
  (hlaunch:topic.launch=.returned ok):Moves s (.settle i) (s.settle i ok topic)
 | reported {j:ℕ} {subscription:Subscription} {topic:WebsocketTopic κ}
  (hsubscription:s.subscriptions[j]?=some subscription):
  Moves s (.report j) (s.report j subscription topic)
 | closing {j:ℕ} {subscription:Subscription} (hsubscription:s.subscriptions[j]?=some subscription)
  (hstage:subscription.stage=.idle):Moves s (.close j) (s.beginClose j subscription)
 | unlisted {j:ℕ} {subscription:Subscription} {own:WebsocketTopic κ}
  (hsubscription:s.subscriptions[j]?=some subscription) (hstage:subscription.stage=.removing)
  (hown:s.created[subscription.topic]?=some own) (hmap:s.topics own.key=none):
  Moves s (.remove j) (s.setSubscription j {subscription with stage:=.done})
 | left {j i:ℕ} {subscription:Subscription} {own topic:WebsocketTopic κ}
  (hsubscription:s.subscriptions[j]?=some subscription) (hstage:subscription.stage=.removing)
  (hown:s.created[subscription.topic]?=some own) (hmap:s.topics own.key=some i)
  (htopic:s.created[i]?=some topic)
  (hstays:topic.subscriptions.filter (· ≠ j)≠[]∨topic.starting=true):
  Moves s (.remove j) ((s.setSubscription j {subscription with stage:=.done}).leaveTopic j i topic)
 | dropped {j i:ℕ} {subscription:Subscription} {own topic:WebsocketTopic κ}
  (hsubscription:s.subscriptions[j]?=some subscription) (hstage:subscription.stage=.removing)
  (hown:s.created[subscription.topic]?=some own) (hmap:s.topics own.key=some i)
  (htopic:s.created[i]?=some topic) (hlast:topic.subscriptions.filter (· ≠ j)=[])
  (hstarted:topic.starting=false):
  Moves s (.remove j)
   (((s.setSubscription j {subscription with stage:=.done}).leaveTopic j i topic).dropTopic i topic)
 | stopped {index i:ℕ} (howed:s.owed[index]?=some i):Moves s (.stop index) (s.callStop index i)
 | shut (hopen:s.closed=false):Moves s .closeSocket s.shut
 | swept {j:ℕ} {rest:List ℕ} {subscription:Subscription} (hsweep:s.sweep=j::rest)
  (hsubscription:s.subscriptions[j]?=some subscription) (hstage:subscription.stage=.done):
  Moves s .sweep {s with sweep:=rest}

theorem moves_of_step {s s':Socket κ} {ev:Event κ} (h:step s ev=some s'):Moves s ev s':=by
 cases ev with
 | watch=>
  simp only[step,Socket.watch] at h
  split at h
  next hcl=>
   cases h
   exact .refused hcl
  next hopen=>
   split at h
   next hnone=>
    cases h
    exact .created (by simpa using hopen) hnone
   next i hmap=>
    obtain ⟨topic,htp,rfl⟩:=map_eq_some_iff.mp h
    exact .joined (by simpa using hopen) hmap htp
 | start=>
  obtain ⟨topic,htp,rfl⟩:=map_eq_some_iff.mp h
  obtain ⟨htp,hla⟩:=filter_eq_some_iff.mp htp
  exact .started htp (by simpa using hla)
 | settle=>
  obtain ⟨topic,htp,hm⟩:=bind_eq_some_iff.mp h
  split at hm
  next ok hla=>
   cases hm
   exact .settled htp hla
  next=>cases hm
 | report=>
  obtain ⟨subscription,hsubs,hmap⟩:=bind_eq_some_iff.mp h
  obtain ⟨topic,-,rfl⟩:=map_eq_some_iff.mp hmap
  exact .reported (filter_eq_some_iff.mp hsubs).1
 | close=>
  obtain ⟨subscription,hsubs,rfl⟩:=map_eq_some_iff.mp h
  obtain ⟨hsubs,hsg⟩:=filter_eq_some_iff.mp hsubs
  exact .closing hsubs (by simpa using hsg)
 | remove=>
  obtain ⟨subscription,hsubs,hrem⟩:=bind_eq_some_iff.mp h
  obtain ⟨hsubs,hsg⟩:=filter_eq_some_iff.mp hsubs
  have hsg:subscription.stage=.removing:=by simpa using hsg
  obtain ⟨own,hown,hm⟩:=bind_eq_some_iff.mp hrem
  dsimp only at hm
  split at hm
  next hmap=>
   cases hm
   exact .unlisted hsubs hsg hown hmap
  next i hmap=>
   obtain ⟨topic,htp,hleft⟩:=map_eq_some_iff.mp hm
   split at hleft
   next hsta=>
    cases hleft
    exact .left hsubs hsg hown hmap htp hsta
   next hlast=>
    obtain ⟨hlast,hstd⟩:=not_or.mp hlast
    cases hleft
    exact .dropped hsubs hsg hown hmap htp (by simpa using hlast) (by simpa using hstd)
 | stop=>
  obtain ⟨i,howed,rfl⟩:=map_eq_some_iff.mp h
  exact .stopped howed
 | closeSocket=>
  simp only[step,ite_none_left_eq_some] at h
  obtain ⟨hopen,hshut⟩:=h
  cases hshut
  exact .shut (by simpa using hopen)
 | sweep=>
  simp only[step] at h
  split at h
  next=>cases h
  next j rest hswe=>
   obtain ⟨subscription,hsubs,rfl⟩:=map_eq_some_iff.mp h
   obtain ⟨hsubs,hsg⟩:=filter_eq_some_iff.mp hsubs
   exact .swept hswe hsubs (by simpa using hsg)

end

/-! ## The map, the topics and their subscriptions -/

structure Socket.Linked (s:Socket κ):Prop where
 mapped:∀ {key:κ} {i:ℕ},s.topics key=some i → ∃ topic,s.created[i]?=some topic∧topic.key=key
 newest:∀ {key:κ} {i k:ℕ} {topic:WebsocketTopic κ},s.topics key=some i→ s.created[k]?=some topic →
  topic.key=key→ k≤ i
 starting:∀ {i:ℕ} {topic:WebsocketTopic κ},s.created[i]?=some topic→ topic.starting=true →
  s.topics topic.key=some i
 members:∀ {i j:ℕ} {topic:WebsocketTopic κ},s.created[i]?=some topic→ j∈topic.subscriptions →
  ∃ subscription,s.subscriptions[j]?=some subscription∧subscription.topic=i∧
   (s.topics topic.key=some i→ subscription.stage≠.done)
 owner:∀ {j:ℕ} {subscription:Subscription},s.subscriptions[j]?=some subscription →
  (subscription.stage≠.idle→ subscription.closed=true)∧
   ∃ topic,s.created[subscription.topic]?=some topic∧(j∈topic.subscriptions∨subscription.stage=.done)
 swept:s.closed=true → ∀ {i j:ℕ} {topic:WebsocketTopic κ},s.created[i]?=some topic →
  s.topics topic.key=some i→ j∈topic.subscriptions→ j∈s.sweep

section
variable {s:Socket κ} {i j:ℕ} {topic:WebsocketTopic κ} {subscription:Subscription}

theorem Socket.Linked.moved (h:s.Linked) (htp:s.created[i]?=some topic) {new:WebsocketTopic κ}
  {subscriptions:List Subscription} (hkey:new.key=topic.key)
  (hsta:new.starting=true→ topic.starting=true)
  (hkept:∀ {k l:ℕ} {t:WebsocketTopic κ} {sub:Subscription},k≠i→ s.created[k]?=some t →
   l∈t.subscriptions→ s.subscriptions[l]?=some sub→ sub.topic=k→ subscriptions[l]?=some sub∨
    ∃ sub',subscriptions[l]?=some sub'∧sub'.topic=k∧s.topics t.key≠some k)
  (hmem:∀ {l:ℕ},l∈new.subscriptions → ∃ sub,subscriptions[l]?=some sub∧sub.topic=i∧
   (s.topics topic.key=some i→ sub.stage≠.done))
  (howne:∀ {l:ℕ} {sub:Subscription},subscriptions[l]?=some sub →
   (sub.stage≠.idle→ sub.closed=true)∧(sub.topic=i∧(l∈new.subscriptions∨sub.stage=.done)∨
    sub.topic≠i∧∃ t,s.created[sub.topic]?=some t∧(l∈t.subscriptions∨sub.stage=.done)))
  (hswe:s.closed=true→ s.topics topic.key=some i → ∀ l∈new.subscriptions,l∈s.sweep):
  {s.setTopic i new with subscriptions:=subscriptions}.Linked where
 mapped:=by
  intro key k hmap
  obtain ⟨old,hold,hk⟩:=h.mapped hmap
  by_cases hki:k=i
  · subst hki
    cases htp.symm.trans hold
    exact ⟨new,getElem?_moved_self htp new,hkey.trans hk⟩
  · exact ⟨old,(getElem?_moved_ne htp new hki).trans hold,hk⟩
 newest:=by
  intro key k l t hmap hl hkeyl
  rcases moved_cases htp hl with ⟨rfl,rfl⟩ | ⟨-,hold⟩
  · exact h.newest hmap htp (hkey.symm.trans hkeyl)
  · exact h.newest hmap hold hkeyl
 starting:=by
  intro k t hk hst
  rcases moved_cases htp hk with ⟨rfl,rfl⟩ | ⟨-,hold⟩
  · rw[hkey]
    exact h.starting htp (hsta hst)
  · exact h.starting hold hst
 members:=by
  intro k l t hk hl
  rcases moved_cases htp hk with ⟨rfl,rfl⟩ | ⟨hne,hold⟩
  · rw[hkey]
    exact hmem hl
  · obtain ⟨sub,hsub,htop,hsg⟩:=h.members hold hl
    rcases hkept hne hold hl hsub htop with hsub | ⟨sub',hsub,htop,hout⟩
    · exact ⟨sub,hsub,htop,hsg⟩
    · exact ⟨sub',hsub,htop,fun hmap=>absurd hmap hout⟩
 owner:=by
  intro l sub hl
  obtain ⟨hcl,⟨rfl,hin⟩ | ⟨hne,t,ht,hin⟩⟩:=howne hl
  · exact ⟨hcl,new,getElem?_moved_self htp new,hin⟩
  · exact ⟨hcl,t,(getElem?_moved_ne htp new hne).trans ht,hin⟩
 swept:=by
  intro hcl k l t hk hmap hl
  rcases moved_cases htp hk with ⟨rfl,rfl⟩ | ⟨-,hold⟩
  · rw[hkey] at hmap
    exact hswe hcl hmap l hl
  · exact h.swept hcl hold hmap hl

theorem Socket.Linked.owner_of_topic (h:s.Linked) (htp:s.created[i]?=some topic)
 (hsubs:s.subscriptions[j]?=some subscription):
 subscription.topic=i∧(j∈topic.subscriptions∨subscription.stage=.done)∨
  subscription.topic≠i∧∃ t,s.created[subscription.topic]?=some t∧
   (j∈t.subscriptions∨subscription.stage=.done):=by
 obtain ⟨-,t,ht,hin⟩:=h.owner hsubs
 grind

theorem Socket.Linked.frame (h:s.Linked) (owed:List ℕ) (native:List NativeCall):
 {s with owed:=owed,native:=native}.Linked:=
 ⟨h.mapped,h.newest,h.starting,h.members,h.owner,h.swept⟩

theorem Socket.Linked.setTopic (h:s.Linked) (htp:s.created[i]?=some topic) (new:WebsocketTopic κ)
 (hkey:new.key=topic.key) (hsubs:new.subscriptions=topic.subscriptions)
 (hsta:new.starting=true→ topic.starting=true):(s.setTopic i new).Linked:=by
 refine h.moved htp hkey hsta (fun _ _ _ hsub _=>.inl hsub) ?_ ?_ ?_
 · intro l hl
   exact h.members htp (hsubs▸hl)
 · intro l sub hl
   rw[hsubs]
   exact ⟨(h.owner hl).1,h.owner_of_topic htp hl⟩
 · intro hcl hmap l hl
   exact h.swept hcl htp hmap (hsubs▸hl)

theorem Socket.Linked.unmap [DecidableEq κ] (h:s.Linked) {key:κ}
 (hstd:∀ (k:ℕ) (t:WebsocketTopic κ),s.created[k]?=some t→ t.key=key→ t.starting=false):
 (s.unmap key).Linked:=by
 have hsub:∀ {oth:κ} {k:ℕ},(s.unmap key).topics oth=some k→ s.topics oth=some k:=
  fun hmap=>(of_take hmap).2
 refine ⟨fun hmap=>h.mapped (hsub hmap),fun hmap=>h.newest (hsub hmap),?_,?_,h.owner,?_⟩
 · intro k t hk hst
   have hne:t.key≠key:=by
    intro heq
    rw[hstd k t hk heq] at hst
    cases hst
   have hmap:=h.starting hk hst
   rw[←hmap]
   exact Function.update_of_ne hne none s.topics
 · intro k l t hk hl
   obtain ⟨sub,hl,htop,hsg⟩:=h.members hk hl
   exact ⟨sub,hl,htop,fun hmap=>hsg (hsub hmap)⟩
 · intro hcl k l t hk hmap
   exact h.swept hcl hk (hsub hmap)

theorem Socket.Linked.setSubscription (h:s.Linked) (hsubs:s.subscriptions[j]?=some subscription)
 {new:Subscription} (htp:new.topic=subscription.topic)
 (hcl:new.stage≠.idle→ new.closed=true) (hdone:subscription.stage=.done→ new.stage=.done)
 (hout:new.stage=.done→ subscription.stage=.done∨
  ∀ t,s.created[subscription.topic]?=some t→ s.topics t.key≠some subscription.topic):
 (s.setSubscription j new).Linked:=by
 refine ⟨h.mapped,h.newest,h.starting,?_,?_,h.swept⟩
 · intro k l t hk hl
   obtain ⟨sub,hsub,htop,hsg⟩:=h.members hk hl
   by_cases hlj:l=j
   · subst hlj
     cases hsubs.symm.trans hsub
     refine ⟨new,getElem?_moved_self hsubs new,htp.trans htop,?_⟩
     intro hmap hnew
     rw[htop] at hout
     rcases hout hnew with hdone | hout
     · exact hsg hmap hdone
     · exact hout t hk hmap
   · exact ⟨sub,(getElem?_moved_ne hsubs new hlj).trans hsub,htop,hsg⟩
 · intro l sub hl
   rcases moved_cases hsubs hl with ⟨rfl,rfl⟩ | ⟨-,hold⟩
   · obtain ⟨-,own,hown,hin⟩:=h.owner hsubs
     refine ⟨hcl,own,?_,hin.imp_right hdone⟩
     rw[htp]
     exact hown
   · exact h.owner hold

theorem Socket.Linked.createTopic [DecidableEq κ] (h:s.Linked) (hopen:s.closed=false) {key:κ}
 (hnone:s.topics key=none):(s.createTopic key).Linked:=by
 have hcas:∀ {oth:κ} {k:ℕ},(s.createTopic key).topics oth=some k →
  oth=key∧k=s.created.length∨oth≠key∧s.topics oth=some k:=put_cases
 refine ⟨?_,?_,?_,?_,?_,?_⟩
 · intro oth k hmap
   rcases hcas hmap with ⟨rfl,rfl⟩ | ⟨-,hold⟩
   · exact ⟨_,List.getElem?_concat_length,rfl⟩
   · obtain ⟨t,hk,hkey⟩:=h.mapped hold
     exact ⟨t,getElem?_started_of_some hk _,hkey⟩
 · intro oth k l t hmap hl hkey
   rcases hcas hmap with ⟨rfl,rfl⟩ | ⟨hne,hold⟩<;>rcases started_cases hl with ⟨rfl,rfl⟩ | ⟨hlt,hl⟩
   · exact Nat.le_refl _
   · exact Nat.le_of_lt hlt
   · exact absurd hkey.symm hne
   · exact h.newest hold hl hkey
 · intro k t hk hst
   rcases started_cases hk with ⟨rfl,rfl⟩ | ⟨-,hk⟩
   · exact Function.update_self key _ s.topics
   · exact put_of_some hnone (h.starting hk hst)
 · intro k l t hk hl
   rcases started_cases hk with ⟨rfl,rfl⟩ | ⟨hlt,hk⟩
   · rw[mem_singleton.mp hl]
     exact ⟨_,List.getElem?_concat_length,rfl,fun _=>nofun⟩
   · obtain ⟨sub,hsub,htop,hsg⟩:=h.members hk hl
     exact ⟨sub,getElem?_started_of_some hsub _,htop,fun hmap=>hsg (of_put hmap hlt)⟩
 · intro l sub hl
   rcases started_cases hl with ⟨rfl,rfl⟩ | ⟨-,hl⟩
   · exact ⟨fun hidle=>absurd rfl hidle,_,List.getElem?_concat_length,.inl (mem_singleton.mpr rfl)⟩
   · obtain ⟨hcl,own,hown,hin⟩:=h.owner hl
     exact ⟨hcl,own,getElem?_started_of_some hown _,hin⟩
 · intro hcl
   cases hopen.symm.trans hcl

theorem Socket.Linked.joinTopic [DecidableEq κ] (h:s.Linked) (hopen:s.closed=false)
 (htp:s.created[i]?=some topic):(s.joinTopic i topic).Linked:=by
 refine h.moved htp rfl id (fun _ _ _ hsub _=>.inl (getElem?_started_of_some hsub _)) ?_ ?_ ?_
 · intro l hl
   rcases mem_append.mp hl with hl | hl
   · obtain ⟨sub,hsub,hrest⟩:=h.members htp hl
     grind
   · rw[mem_singleton.mp hl]
     exact ⟨_,List.getElem?_concat_length,rfl,fun _=>nofun⟩
 · intro l sub hl
   rcases started_cases hl with ⟨rfl,rfl⟩ | ⟨-,hl⟩
   · grind
   · refine ⟨(h.owner hl).1,(h.owner_of_topic htp hl).imp_left ?_⟩
     grind
 all_goals grind

theorem Socket.Linked.leaveTopic [DecidableEq κ] (h:s.Linked) (hsubs:s.subscriptions[j]?=some subscription)
 (hsg:subscription.stage=.removing) {own:WebsocketTopic κ}
 (hown:s.created[subscription.topic]?=some own) (hmap:s.topics own.key=some i)
 (htp:s.created[i]?=some topic):
 ((s.setSubscription j {subscription with stage:=.done}).leaveTopic j i topic).Linked:=by
 have hmov:=fun {l:ℕ} (hne:l≠j)=>getElem?_moved_ne hsubs {subscription with stage:=.done} hne
 refine h.moved htp rfl id ?_ ?_ ?_ ?_
 · intro k l t sub hne hk hl hsub htop
   by_cases hlj:l=j
   · subst hlj
     cases hsubs.symm.trans hsub
     refine .inr ⟨_,getElem?_moved_self hsubs _,htop,?_⟩
     grind
   · exact .inl ((hmov hlj).trans hsub)
 · intro l hl
   obtain ⟨hl,hne⟩:=mem_filter.mp hl
   obtain ⟨sub,hsub,hrest⟩:=h.members htp hl
   exact ⟨sub,(hmov (by simpa using hne)).trans hsub,hrest⟩
 · intro l sub hl
   rcases moved_cases hsubs hl with ⟨rfl,rfl⟩ | ⟨hne,hl⟩
   · obtain ⟨hcl,t,ht,-⟩:=h.owner hsubs
     grind
   · refine ⟨(h.owner hl).1,(h.owner_of_topic htp hl).imp_left ?_⟩
     grind
 · intro hcl hmapp l hl
   exact h.swept hcl htp hmapp (mem_filter.mp hl).1

theorem Socket.Linked.shut (h:s.Linked):s.shut.Linked:=by
 refine ⟨h.mapped,h.newest,h.starting,h.members,h.owner,?_⟩
 intro _ k l t hk hmap hl
 obtain ⟨sub,hsub,rfl,-⟩:=h.members hk hl
 have hlis:s.listed l=true:=by
  have htp:s.created[sub.topic]?=some t:=hk
  have hmapp:s.topics t.key=some sub.topic:=hmap
  simp[Socket.listed,hsub,htp,hmapp,hl]
 exact mem_filter.mpr ⟨mem_range.mpr (List.getElem?_eq_some_iff.mp hsub).1,hlis⟩

theorem Socket.Linked.sweepRest (h:s.Linked) {rest:List ℕ} (hswe:s.sweep=j::rest)
 (hsubs:s.subscriptions[j]?=some subscription) (hsg:subscription.stage=.done):
 {s with sweep:=rest}.Linked:=by
 refine ⟨h.mapped,h.newest,h.starting,h.members,h.owner,?_⟩
 intro hcl k l t hk hmap hl
 obtain ⟨sub,hsub,-,hlive⟩:=h.members hk hl
 have hin:=h.swept hcl hk hmap hl
 grind

theorem Socket.Linked.mapped_self (h:s.Linked) {key:κ} (hmap:s.topics key=some i)
 (htp:s.created[i]?=some topic):s.topics topic.key=some i:=by
 obtain ⟨t,ht,hkey⟩:=h.mapped hmap
 grind

theorem Socket.Linked.started_of_mapped (h:s.Linked) (htp:s.created[i]?=some topic)
 (hmap:s.topics topic.key=some i) (hstd:topic.starting=false) (k:ℕ) (t:WebsocketTopic κ)
 (hk:s.created[k]?=some t) (hkey:t.key=topic.key):t.starting=false:=by
 by_contra hst
 have hst:t.starting=true:=by simpa using hst
 have hk':=h.starting hk hst
 grind

theorem Socket.Linked.settle [DecidableEq κ] (h:s.Linked) {ok:Bool} (htp:s.created[i]?=some topic)
 (hla:topic.launch=.returned ok):(s.settle i ok topic).Linked:=by
 have hset:=h.setTopic htp (topic.settle s.closed ok) rfl rfl nofun
 have hmap:=h.starting htp (by rw[WebsocketTopic.starting,hla])
 have hunm:=hset.unmap (hset.started_of_mapped (getElem?_moved_self htp _) hmap rfl)
 rw[Socket.settle]
 split
 next=>exact hunm.frame _ _
 next=>exact hset.frame _ _

theorem Socket.Linked.dropTopic [DecidableEq κ] (h:s.Linked) (hsubs:s.subscriptions[j]?=some subscription)
 (hsg:subscription.stage=.removing) {own:WebsocketTopic κ}
 (hown:s.created[subscription.topic]?=some own) (hmap:s.topics own.key=some i)
 (htp:s.created[i]?=some topic) (hstd:topic.starting=false):
 (((s.setSubscription j {subscription with stage:=.done}).leaveTopic j i topic).dropTopic i topic).Linked:=by
 have hleft:=h.leaveTopic hsubs hsg hown hmap htp
 have hmapp:=h.mapped_self hmap htp
 exact (hleft.unmap (hleft.started_of_mapped (getElem?_moved_self htp _) hmapp hstd)).frame _ _

end

theorem Socket.Linked.moves [DecidableEq κ] {s s':Socket κ} {ev:Event κ} (h:s.Linked) (hmv:Moves s ev s'):
 s'.Linked:=by
 cases hmv with
 | refused=>exact h
 | created hopen hnone=>exact h.createTopic hopen hnone
 | joined hopen _ htp=>exact h.joinTopic hopen htp
 | @started i ok topic htp hla=>
  have hset:=h.setTopic htp {topic with launch:=.returned ok} rfl rfl
  exact (hset fun _=>by rw[WebsocketTopic.starting,hla]).frame _ _
 | settled htp hla=>exact h.settle htp hla
 | reported hsubs=>
  have hcl:=(h.owner hsubs).1
  exact h.setSubscription hsubs rfl (fun hidle=>by simp[hcl hidle]) id .inl
 | closing hsubs hsg=>exact h.setSubscription hsubs rfl (fun _=>rfl) (by rw[hsg]; nofun) nofun
 | unlisted hsubs hsg hown hmap=>
  refine h.setSubscription hsubs rfl (fun _=>(h.owner hsubs).1 (by rw[hsg]; nofun))
   (fun _=>rfl) (fun _=>.inr ?_)
  grind
 | left hsubs hsg hown hmap htp=>exact h.leaveTopic hsubs hsg hown hmap htp
 | dropped hsubs hsg hown hmap htp _ hstd=>exact h.dropTopic hsubs hsg hown hmap htp hstd
 | stopped=>exact h.frame _ _
 | shut=>exact h.shut
 | swept hswe hsubs hsg=>exact h.sweepRest hswe hsubs hsg

end BolterTrader.TopicLifecycle
