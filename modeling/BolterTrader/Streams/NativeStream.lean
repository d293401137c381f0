import BolterTrader.Foundations.Collections
import BolterTrader.Streams.TopicLifecycle
import Mathlib.Data.List.Count

/-! The native calls a public websocket makes for its topics: one start for each topic,
at most one stop, and in which order they fall for one key. -/
namespace BolterTrader.TopicLifecycle
open Foundations Current Threads Transition List Option

variable {κ:Type} {s s':Socket κ} {i j:ℕ} {topic new:WebsocketTopic κ} {event:Event κ}

/-! ## Which topics are in the map -/

structure Served (created:List (WebsocketTopic κ)) (topics:κ→Option ℕ):Prop where
 inUse:∀ {i:ℕ} {topic:WebsocketTopic κ},created[i]?=some topic→ topics topic.key=some i →
  topic.starting=false→ topic.subscriptions≠[]∧topic.stop=true∧topic.launch=.settled true
 unused:∀ {i:ℕ} {topic:WebsocketTopic κ},created[i]?=some topic→ topics topic.key≠some i →
  topic.failed=true∨topic.subscriptions=[]

theorem Served.moved {current:List (WebsocketTopic κ)} {tps topics':κ→Option ℕ}
 (h:Served current tps) (htp:current[i]?=some topic) (hmap:Shrinks tps topics' i)
 (hus:topics' new.key=some i→ new.starting=false →
  new.subscriptions≠[]∧new.stop=true∧new.launch=.settled true)
 (hunu:topics' new.key≠some i→ new.failed=true∨new.subscriptions=[]):
 Served (current.set i new) topics':=by
 constructor
 · intro k t hk hmapp hstd
   rcases moved_cases htp hk with ⟨rfl,rfl⟩ | ⟨hne,hk⟩
   · exact hus hmapp hstd
   · exact h.inUse hk ((hmap.eq_some_iff hne).mp hmapp) hstd
 · intro k t hk hmapp
   rcases moved_cases htp hk with ⟨rfl,rfl⟩ | ⟨hne,hk⟩
   · exact hunu hmapp
   · exact h.unused hk fun hold=>hmapp ((hmap.eq_some_iff hne).mpr hold)

theorem settle_shrinks [DecidableEq κ] {ok:Bool} (hmap:s.topics topic.key=some i):
 Shrinks s.topics (s.settle i ok topic).topics i:=by
 rw[Socket.settle]
 dsimp only
 split
 next=>exact .take hmap
 next=>exact .refl _ i

theorem settle_mapped [DecidableEq κ] {ok:Bool} (hmap:s.topics topic.key=some i):
 (s.settle i ok topic).topics topic.key=some i ↔ s.closed=false∧ok=true∧topic.subscriptions≠[]:=by
 rw[Socket.settle]
 grind [WebsocketTopic.settle]

theorem Served.moves [DecidableEq κ] (h:Served s.created s.topics) (hlk:s.Linked) (hmv:Moves s event s'):
 Served s'.created s'.topics:=by
 cases hmv with
 | @created key hopen hnone=>
  constructor
  · intro k t hk hmap hstd
    rcases started_cases hk with ⟨rfl,rfl⟩ | ⟨hlt,hk⟩
    · cases hstd
    · exact h.inUse hk (of_put hmap hlt) hstd
  · intro k t hk hmap
    rcases started_cases hk with ⟨rfl,rfl⟩ | ⟨hlt,hk⟩
    · exact absurd (Function.update_self key _ s.topics) hmap
    · exact h.unused hk fun hold=>hmap (put_of_some hnone hold)
 | @joined key i topic hopen hmap htp=>
  have hmapp:=hlk.mapped_self hmap htp
  refine h.moved htp (.refl _ i) (fun _ hstd=>?_) fun hout=>absurd hmapp hout
  exact ⟨by simp,(h.inUse htp hmapp hstd).2⟩
 | @started i ok topic htp hla=>
  have hmapp:=hlk.starting htp (by rw[WebsocketTopic.starting,hla])
  refine h.moved htp (.refl _ i) (fun _ hstd=>absurd hstd ?_) fun hout=>absurd hmapp hout
  simp[WebsocketTopic.starting]
 | @settled i ok topic htp hla=>
  have hmapp:=hlk.starting htp (by rw[WebsocketTopic.starting,hla])
  refine h.moved htp (settle_shrinks hmapp) (fun hmap _=>?_) fun hout=>?_
  all_goals grind [settle_mapped,WebsocketTopic.settle]
 | @left j i sub1 own topic hsubs hsg hown hmap htp hsta=>
  have hmapp:=hlk.mapped_self hmap htp
  refine h.moved htp (.refl _ i) (fun _ hstd=>?_) fun hout=>absurd hmapp hout
  have hsome:=hsta.resolve_right fun hst=>Bool.false_ne_true (hstd.symm.trans hst)
  exact ⟨hsome,(h.inUse htp hmapp hstd).2⟩
 | @dropped j i sub1 own topic hsubs hsg hown hmap htp hlast=>
  have hmapp:=hlk.mapped_self hmap htp
  exact h.moved htp (.take hmapp) (fun hmap _=>absurd rfl (of_take hmap).1) fun _=>.inr hlast
 | _=>exact h

/-! ## What a step means for the native calls -/

def SettleClear (s:Socket κ):Event κ→Prop
 | .settle i=>∀ topic∈s.created[i]?,topic.launch=.returned true→ s.closed=true→ topic.subscriptions=[]
 | _=>True

instance SettleClear.decidable (s:Socket κ):∀ event,Decidable (SettleClear s event)
 | .settle i=>
  inferInstanceAs (Decidable (∀ topic∈s.created[i]?,topic.launch=.returned true→ s.closed=true →
   topic.subscriptions=[]))
 | .watch _ | .start _ _ | .report _ | .close _ | .remove _ | .stop _ | .closeSocket | .sweep=>.isTrue trivial

structure Touches (s s':Socket κ) (i:ℕ) (old new:WebsocketTopic κ) (extra:List ℕ):Prop where
 topic:s.created[i]?=some old
 mapped:s.topics old.key=some i
 created:s'.created=s.created.set i new
 native:s'.native=s.native
 owed:s'.owed=s.owed++extra
 topics:Shrinks s.topics s'.topics i
 key:new.key=old.key
 outcome:new.launch.outcome=old.launch.outcome
 extra:extra=[]∨extra=[i]∧new.subscriptions=[]∧new.launch=.settled true∧s'.topics new.key≠some i

theorem Touches.extra_cases {ext:List ℕ} (h:Touches s s' i topic new ext):ext=[]∨ext=[i]:=
 h.extra.imp_right And.left

theorem Touches.count_extra {ext:List ℕ} (h:Touches s s' i topic new ext) {k:ℕ} (hk:k≠i):
 ext.count k=0:=by
 rcases h.extra_cases with rfl | rfl
 · rfl
 · simp[hk.symm]

inductive NativeMoves [DecidableEq κ] (s:Socket κ):Event κ→Socket κ→Prop where
 | quiet {event:Event κ} {s':Socket κ} (hcreated:s'.created=s.created) (htopics:s'.topics=s.topics)
  (howed:s'.owed=s.owed) (hnative:s'.native=s.native):NativeMoves s event s'
 | created {key:κ} (hnone:s.topics key=none):NativeMoves s (.watch key) (s.createTopic key)
 | started {i:ℕ} {ok:Bool} {topic:WebsocketTopic κ} (htopic:s.created[i]?=some topic)
  (hlaunch:topic.launch=.running) (hmapped:s.topics topic.key=some i):
  NativeMoves s (.start i ok) (s.startReturned i ok topic)
 | touched {event:Event κ} {s':Socket κ} {i:ℕ} {topic new:WebsocketTopic κ} {extra:List ℕ}
  (htouches:Touches s s' i topic new extra)
  (hkept:SettleClear s event→ new.launch=.settled true→ s'.topics new.key≠some i→ extra=[i]):
  NativeMoves s event s'
 | stopped {index i:ℕ} (howed:s.owed[index]?=some i):NativeMoves s (.stop index) (s.callStop index i)

section
variable [DecidableEq κ]

theorem native_moves_of_mapped (htp:s.created[i]?=some topic) (hmapp:s.topics topic.key=some i)
 (hcr:s'.created=s.created.set i new) (htop:s'.topics=s.topics) (howed:s'.owed=s.owed)
 (hnat:s'.native=s.native) (hkey:new.key=topic.key) (hla:new.launch=topic.launch):
 NativeMoves s event s':=by
 have hshr:Shrinks s.topics s'.topics i:=by
  rw[htop]
  exact .refl _ i
 have hsta:s'.topics new.key=some i:=by rw[htop,hkey,hmapp]
 refine .touched ⟨htp,hmapp,hcr,hnat,?_,hshr,hkey,congrArg _ hla,.inl rfl⟩
  fun _ _ hout=>absurd hsta hout
 rw[howed,append_nil]

theorem native_moves_of_settle {ok:Bool} (htp:s.created[i]?=some topic) (hla:topic.launch=.returned ok)
 (hmapp:s.topics topic.key=some i):NativeMoves s (.settle i) (s.settle i ok topic):=by
 have houtc:(topic.settle s.closed ok).launch.outcome=topic.launch.outcome:=by
  rw[hla]
  rfl
 refine .touched ⟨htp,hmapp,rfl,rfl,rfl,settle_shrinks hmapp,rfl,houtc,?_⟩ ?_
 · split
   next hunu=>
    simp only[Bool.and_eq_true,List.isEmpty_iff] at hunu
    refine .inr ⟨rfl,hunu.1,by rw[hunu.2]; rfl,fun hmap=>?_⟩
    exact ((settle_mapped hmapp).mp hmap).2.2 hunu.1
   next=>exact .inl rfl
 · intro hcle hok hout
   have hok:ok=true:=by simpa[WebsocketTopic.settle] using hok
   subst hok
   have hnil:topic.subscriptions=[]:=by
    by_contra hsome
    refine hout ((settle_mapped hmapp).mpr ⟨?_,rfl,hsome⟩)
    by_contra hcl
    exact hsome (hcle topic htp hla (by simpa using hcl))
   simp[hnil]

theorem native_moves_of_moves (hlk:s.Linked) (hser:Served s.created s.topics)
 (hmv:Moves s event s'):NativeMoves s event s':=by
 cases hmv with
 | created _ hnone=>exact .created hnone
 | joined _ hmap htp | left _ _ _ hmap htp=>
  exact native_moves_of_mapped htp (hlk.mapped_self hmap htp) rfl rfl rfl rfl rfl rfl
 | started htp hla=>exact .started htp hla (hlk.starting htp (by rw[WebsocketTopic.starting,hla]))
 | settled htp hla=>
  have hmapp:=hlk.starting htp (by rw[WebsocketTopic.starting,hla])
  exact native_moves_of_settle htp hla hmapp
 | @dropped j i sub1 own topic _ _ _ hmap htp hlast hstd=>
  have hmapp:=hlk.mapped_self hmap htp
  obtain ⟨-,hstop,hla⟩:=hser.inUse htp hmapp hstd
  have hext:(if topic.stop then [i] else [])=[i]:=by rw[hstop,if_pos rfl]
  have hout:Function.update s.topics topic.key none topic.key≠some i:=fun hmap=>(of_take hmap).1 rfl
  exact .touched ⟨htp,hmapp,rfl,rfl,rfl,.take hmapp,rfl,rfl,.inr ⟨hext,hlast,hla,hout⟩⟩
   fun _ _ _=>hext
 | stopped howed=>exact .stopped howed
 | _=>exact .quiet rfl rfl rfl rfl

end

/-! ## How often the native calls are made -/

def Socket.ended (s:Socket κ) (i:ℕ):ℕ:=s.owed.count i+s.native.count (.stop i)

structure Socket.Counted (s:Socket κ):Prop where
 starts:∀ (k:ℕ) (ok:Bool),s.native.count (.start k ok) =
  if (s.created[k]?.bind fun topic=>topic.launch.outcome)=some ok then 1 else 0
 once:∀ k,s.ended k≤1
 finished:∀ {k:ℕ},0<s.ended k → ∃ topic,s.created[k]?=some topic∧topic.subscriptions=[]∧
  topic.launch=.settled true∧s.topics topic.key≠some k

theorem Socket.Counted.ended_eq_zero (h:s.Counted) (htp:s.created[i]?=some topic)
 (hlive:s.topics topic.key=some i∨topic.launch≠.settled true):s.ended i=0:=by
 by_contra hne
 obtain ⟨t,ht,-,hla,hout⟩:=h.finished (Nat.pos_of_ne_zero hne)
 grind

theorem Socket.Counted.touched (h:s.Counted) {ext:List ℕ} (htou:Touches s s' i topic new ext):
 s'.Counted:=by
 have htp:=htou.topic
 have hzero:=h.ended_eq_zero htp (.inl htou.mapped)
 have hend:∀ k,s'.ended k=s.ended k+ext.count k:=by
  intro k
  rw[Socket.ended,Socket.ended,htou.native,htou.owed,count_append]
  omega
 have hoth:∀ k,k≠i→ s'.ended k=s.ended k:=by
  intro k hk
  rw[hend k,htou.count_extra hk,Nat.add_zero]
 refine ⟨?_,?_,?_⟩
 · intro k ok
   rw[htou.native,htou.created,h.starts k ok]
   by_cases hk:k=i
   · subst hk
     rw[getElem?_moved_self htp,htp,bind_some,bind_some,htou.outcome]
   · rw[getElem?_moved_ne htp _ hk]
 · intro k
   by_cases hk:k=i
   · rw[hk,hend i,hzero]
     rcases htou.extra_cases with rfl | rfl<;>simp
   · rw[hoth k hk]
     exact h.once k
 · intro k hpos
   by_cases hk:k=i
   · subst hk
     rw[hend k,hzero] at hpos
     rcases htou.extra with rfl | ⟨-,hnil,hla,hout⟩
     · cases hpos
     · exact ⟨new,htou.created▸getElem?_moved_self htp new,hnil,hla,hout⟩
   · rw[hoth k hk] at hpos
     obtain ⟨t,ht,hnil,hla,hout⟩:=h.finished hpos
     refine ⟨t,?_,hnil,hla,mt (htou.topics.eq_some_iff hk).mp hout⟩
     rw[htou.created,getElem?_moved_ne htp _ hk,ht]

theorem Socket.Counted.createTopic [DecidableEq κ] (h:s.Counted) (key:κ):
 (s.createTopic key).Counted:=by
 have hfr:s.created[s.created.length]?=none:=List.getElem?_eq_none (Nat.le_refl _)
 refine ⟨?_,h.once,?_⟩
 · intro k ok
   change s.native.count (.start k ok)=_
   rw[h.starts k ok]
   grind [Socket.createTopic,Launch.outcome,getElem?_started]
 · intro k hpos
   obtain ⟨t,ht,hnil,hla,hout⟩:=h.finished hpos
   have hlt:=(List.getElem?_eq_some_iff.mp ht).1
   exact ⟨t,getElem?_started_of_some ht _,hnil,hla,fun hmap=>hout (of_put hmap hlt)⟩

theorem Socket.Counted.startReturned (h:s.Counted) {ok:Bool} (htp:s.created[i]?=some topic)
 (hla:topic.launch=.running):(s.startReturned i ok topic).Counted:=by
 have hend:∀ k,(s.startReturned i ok topic).ended k=s.ended k:=by
  intro k
  simp[Socket.ended,Socket.startReturned,Socket.setTopic]
 refine ⟨?_,?_,?_⟩
 · intro k ok'
   rw[Socket.startReturned,Socket.setTopic,count_append,h.starts k ok',count_singleton]
   grind [getElem?_moved_self,Launch.outcome,getElem?_moved_ne]
 · intro k
   rw[hend]
   exact h.once k
 · intro k hpos
   rw[hend] at hpos
   obtain ⟨t,ht,hnil,hset,hout⟩:=h.finished hpos
   have hk:k≠i:=by
    grind
   exact ⟨t,(getElem?_moved_ne htp _ hk).trans ht,hnil,hset,hout⟩

theorem callStop_ended {ix:ℕ} (howed:s.owed[ix]?=some i) (k:ℕ):
 (s.callStop ix i).ended k=s.ended k:=by
 have hct:=(perm_cons_eraseIdx howed).count_eq k
 grind [Socket.ended,Socket.callStop]

theorem Socket.Counted.callStop (h:s.Counted) {ix:ℕ} (howed:s.owed[ix]?=some i):
 (s.callStop ix i).Counted:=by
 refine ⟨?_,?_,?_⟩
 · intro k ok
   rw[Socket.callStop,count_append,h.starts k ok]
   simp
 · intro k
   rw[callStop_ended howed]
   exact h.once k
 · intro k hpos
   rw[callStop_ended howed] at hpos
   exact h.finished hpos

theorem Socket.Counted.moves [DecidableEq κ] (h:s.Counted) (hmv:NativeMoves s event s'):s'.Counted:=by
 cases hmv with
 | quiet hcr htop howed hnat=>
  have hend:s'.ended=s.ended:=by
   grind [Socket.ended]
  refine ⟨?_,?_,?_⟩
  · rw[hnat,hcr]
    exact h.starts
  · rw[hend]
    exact h.once
  · rw[hend,hcr,htop]
    exact h.finished
 | created=>exact h.createTopic _
 | started htp hla=>exact h.startReturned htp hla
 | touched htou=>exact h.touched htou
 | stopped howed=>exact h.callStop howed

/-! ## Exactly one stop for every start -/

structure Socket.Sound (s:Socket κ):Prop where
 linked:s.Linked
 served:Served s.created s.topics
 counted:s.Counted

theorem Socket.Sound.native_moves [DecidableEq κ] (h:s.Sound) (hstep:TopicLifecycle.step s event=some s'):
 NativeMoves s event s':=
 native_moves_of_moves h.linked h.served (moves_of_step hstep)

theorem Socket.Sound.step [DecidableEq κ] (h:s.Sound) (hstep:TopicLifecycle.step s event=some s'):s'.Sound:=by
 have hmv:=moves_of_step hstep
 exact ⟨h.linked.moves hmv,h.served.moves h.linked hmv,h.counted.moves (h.native_moves hstep)⟩

theorem Socket.sound_new:Socket.Sound ({}:Socket κ):=
 ⟨⟨nofun,nofun,nofun,nofun,nofun,nofun⟩,⟨nofun,nofun⟩,⟨fun _ _=>rfl,fun _=>Nat.zero_le _,nofun⟩⟩

def Socket.Complete (s:Socket κ):Prop:=
 ∀ (k:ℕ) (topic:WebsocketTopic κ),s.created[k]?=some topic→ topic.launch=.settled true →
  s.topics topic.key≠some k→ s.ended k=1

theorem Socket.Complete.moves [DecidableEq κ] (h:s.Complete) (hcou:s.Counted) (hcle:SettleClear s event)
 (hmv:NativeMoves s event s'):s'.Complete:=by
 intro k t hk hla hout
 cases hmv with
 | quiet hcr htop howed hnat=>
  rw[hcr] at hk
  rw[htop] at hout
  rw[Socket.ended,howed,hnat]
  exact h k t hk hla hout
 | created hnone=>
  rcases started_cases hk with ⟨rfl,rfl⟩ | ⟨-,hk⟩
  · cases hla
  · exact h k t hk hla fun hmap=>hout (put_of_some hnone hmap)
 | started htp=>
  rcases moved_cases htp hk with ⟨rfl,rfl⟩ | ⟨-,hk⟩
  · cases hla
  · have hold:=h k t hk hla hout
    simpa[Socket.ended,Socket.startReturned,Socket.setTopic] using hold
 | touched htou hkept=>
  rw[htou.created] at hk
  rw[Socket.ended,htou.owed,htou.native,count_append]
  rcases moved_cases htou.topic hk with ⟨rfl,rfl⟩ | ⟨hne,hk⟩
  · -- the topic was in the map, so this stop is its first
    have hzero:=hcou.ended_eq_zero htou.topic (.inl htou.mapped)
    grind [Socket.ended]
  · have hold:=h k t hk hla (mt (htou.topics.eq_some_iff hne).mpr hout)
    rw[Socket.ended] at hold
    rw[htou.count_extra hne]
    omega
 | stopped howed=>
  rw[callStop_ended howed]
  exact h k t hk hla hout

/-- Every topic is started at most once and stopped once for each start. -/
structure Socket.StopsOnce (s:Socket κ):Prop where
 startedOnce:∀ i,s.native.count (.start i true)+s.native.count (.start i false)≤1
 stopAfterStart:∀ i,s.native.count (.stop i)≤ s.native.count (.start i true)
 idle:∀ i,0<s.native.count (.stop i) → ∀ {j:ℕ} {subscription:Subscription},
  s.subscriptions[j]?=some subscription→ subscription.topic=i→ subscription.closed=true
 stopped:∀ {i:ℕ} {topic:WebsocketTopic κ},s.created[i]?=some topic→ topic.launch=.settled true →
  (∀ {j:ℕ} {subscription:Subscription},s.subscriptions[j]?=some subscription→ subscription.topic=i →
   subscription.stage=.done)∨s.closed=true∧s.sweep=[] →
  s.owed.count i+s.native.count (.stop i)=1

theorem Socket.Sound.count_stop_le (h:s.Sound) (i:ℕ):
 s.native.count (.stop i)≤ s.native.count (.start i true):=by
 rcases Nat.eq_zero_or_pos (s.native.count (.stop i)) with hzero | hpos
 · grind
 · have honce:=h.counted.once i
   obtain ⟨topic,htp,-,hla,-⟩:=h.counted.finished (k:=i) (by rw[Socket.ended]; omega)
   rw[h.counted.starts,htp,bind_some,hla,Launch.outcome,if_pos rfl]
   rw[Socket.ended] at honce
   omega

theorem Socket.Sound.idle (h:s.Sound) (hend:0<s.ended i) {sub1:Subscription}
 (hsubs:s.subscriptions[j]?=some sub1) (htp:sub1.topic=i):
 sub1.closed=true:=by
 obtain ⟨topic,hi,hnil,-,-⟩:=h.counted.finished hend
 obtain ⟨hcl,own,hown,hin⟩:=h.linked.owner hsubs
 grind

theorem Socket.Sound.unmapped (h:s.Sound) (htp:s.created[i]?=some topic)
 (hla:topic.launch=.settled true)
 (hover:(∀ {j:ℕ} {sub1:Subscription},s.subscriptions[j]?=some sub1 →
  sub1.topic=i→ sub1.stage=.done)∨s.closed=true∧s.sweep=[]):
 s.topics topic.key≠some i:=by
 intro hmap
 obtain ⟨hsome,-,-⟩:=h.served.inUse htp hmap (by rw[WebsocketTopic.starting,hla])
 obtain ⟨j,hj⟩:=exists_mem_of_ne_nil _ hsome
 rcases hover with hgone | ⟨hcl,hswe⟩
 · obtain ⟨sub1,hsubs,howne,hlive⟩:=h.linked.members htp hj
   grind
 · have hin:=h.linked.swept hcl htp hmap hj
   rw[hswe] at hin
   cases hin

theorem owed_stops_run [DecidableEq κ] (s:Socket κ):
 ∃ evs s',(∀ event∈evs,∃ ix,event=Event.stop ix)∧run step s evs=some s'∧s'.owed=[]:=by
 have hpro:∀ s:Socket κ,True→ s.owed≠[] → ∃ event next,(∃ ix,event=Event.stop ix)∧
   step s event=some next∧True∧next.owed.length<s.owed.length:=by
  intro s _ hsome
  obtain ⟨i,rest,howed⟩:=exists_cons_of_ne_nil hsome
  refine ⟨.stop 0,s.callStop 0 i,⟨0,rfl⟩,by simp[step,howed],trivial,?_⟩
  simp[Socket.callStop,howed]
 obtain ⟨evs,s',heve,hrun,-,howed⟩:=exists_run_of_progress _ (fun s:Socket κ=>s.owed=[]) _ _ hpro trivial
 exact ⟨evs,s',heve,hrun,howed⟩

/-- Every stop that is owed can be run, and none is run twice. -/
theorem native_stops_once [DecidableEq κ] {events:List (Event κ)} (hclear:Along step SettleClear {} events)
 (hrun:run step {} events=some s):
 s.StopsOnce∧∃ later s',(∀ event∈later,∃ index,event=Event.stop index)∧run step s later=some s'∧
  s'.owed=[]:=by
 have hinv:s.Sound∧s.Complete:=by
  refine invariant_along (fun s=>s.Sound∧s.Complete) ?_ ⟨Socket.sound_new,nofun⟩ hclear hrun
  rintro s event next ⟨hso,hcom⟩ hok hstep
  exact ⟨hso.step hstep,hcom.moves hso.counted hok (hso.native_moves hstep)⟩
 obtain ⟨hso,hcom⟩:=hinv
 refine ⟨⟨fun i=>?_,hso.count_stop_le,fun i hpos=>?_,fun htp hla hover=>?_⟩,owed_stops_run s⟩
 · rw[hso.counted.starts,hso.counted.starts]
   split<;>split<;>simp_all
 · exact hso.idle (by rw[Socket.ended]; omega)
 · exact hcom _ _ htp hla (hso.unmapped htp hla hover)

def closedInTurn:List (Event ℕ):=
 [.watch 7,.watch 7,.start 0 true,.settle 0,.report 0,.report 1,.close 0,.remove 0,.closeSocket,.close 1,
  .remove 1,.sweep,.stop 0]

theorem native_stops_once_swept :
 ∃ s,run step {} closedInTurn=some s∧s.native=[.start 0 true,.stop 0]∧s.StopsOnce:=by
 have hcle:Along step SettleClear {} closedInTurn:=by decide
 exact ⟨_,rfl,rfl,(native_stops_once hcle rfl).1⟩

def Socket.Lost (i:ℕ) (s:Socket κ):Prop:=
 ∃ topic,s.created[i]?=some topic∧topic.launch=.settled true∧s.topics topic.key≠some i∧s.ended i=0

theorem Socket.Lost.moves [DecidableEq κ] (h:s.Lost i) (hmv:NativeMoves s event s'):s'.Lost i:=by
 obtain ⟨t,ht,hla,hout,hzero⟩:=h
 cases hmv with
 | quiet hcr htop howed hnat=>
  refine ⟨t,by rw[hcr,ht],hla,by rwa[htop],?_⟩
  rwa[Socket.ended,howed,hnat]
 | created=>
  have hlt:=(List.getElem?_eq_some_iff.mp ht).1
  exact ⟨t,getElem?_started_of_some ht _,hla,fun hmap=>hout (of_put hmap hlt),hzero⟩
 | @started k ok topic htp hrn=>
  have hne:i≠k:=by
   grind
  refine ⟨t,(getElem?_moved_ne htp _ hne).trans ht,hla,hout,?_⟩
  simpa[Socket.ended,Socket.startReturned,Socket.setTopic] using hzero
 | @touched _ _ k topic new ext htou=>
  have hne:i≠k:=by
   rintro rfl
   cases htou.topic.symm.trans ht
   exact hout htou.mapped
  refine ⟨t,?_,hla,mt (htou.topics.eq_some_iff hne).mp hout,?_⟩
  · rw[htou.created,getElem?_moved_ne htou.topic _ hne,ht]
  · rw[Socket.ended,htou.owed,htou.native,count_append,htou.count_extra hne]
    exact hzero
 | stopped howed=>exact ⟨t,ht,hla,hout,(callStop_ended howed i).trans hzero⟩

theorem stop_lost [DecidableEq κ] (hso:s.Sound) (htp:s.created[i]?=some topic)
 (hla:topic.launch=.returned true) (hcl:s.closed=true) (hsome:topic.subscriptions≠[])
 {lat:List (Event κ)} (hrun:run step s (.settle i::lat)=some s'):.stop i∉s'.native:=by
 obtain ⟨next,hnext,hlat⟩:=run_cons_eq_some.mp hrun
 have heq:next=s.settle i true topic:=by simpa[step,htp,hla] using hnext.symm
 have hmapp:=hso.linked.starting htp (by rw[WebsocketTopic.starting,hla])
 have hzero:=hso.counted.ended_eq_zero htp (.inl hmapp)
 have hlost:next.Lost i:=by
  rw[heq]
  refine ⟨_,getElem?_moved_self htp _,rfl,fun hmap=>?_,?_⟩
  · cases hcl.symm.trans ((settle_mapped hmapp).mp hmap).1
  · grind [Socket.ended,Socket.settle,Socket.setTopic]
 have hinv:=invariant (fun s=>s.Sound∧s.Lost i) ?_ ⟨hso.step hnext,hlost⟩ hlat
 · obtain ⟨-,-,-,-,-,hend⟩:=hinv
   rw[Socket.ended] at hend
   grind
 · rintro s event next ⟨hso,hlost⟩ hstep
   exact ⟨hso.step hstep,hlost.moves (hso.native_moves hstep)⟩

theorem start_survives_close :
 ∃ s:Socket ℕ,run step {} [.watch 7,.closeSocket,.start 0 true]=some s∧
  (∃ s',run step s [.settle 0,.close 0,.remove 0,.sweep,.report 0]=some s'∧s'.sweep=[]∧s'.owed=[]∧
   s'.native=[.start 0 true])∧
  ∀ later s',run step s (.settle 0::later)=some s' → .stop 0∉s'.native:=by
 have hso:∀ s:Socket ℕ,run step {} [.watch 7,.closeSocket,.start 0 true]=some s→ s.Sound:=
  fun s=>invariant Socket.Sound (fun _ _ _ h=>h.step) Socket.sound_new
 refine ⟨_,rfl,⟨_,rfl,rfl,rfl,rfl⟩,fun later s' hrun=>?_⟩
 exact stop_lost (hso _ rfl) rfl rfl rfl (by decide) hrun

/-! ## The order of the calls for one key -/

def Socket.keyOf (s:Socket κ) (i:ℕ):Option κ:=s.created[i]?.map WebsocketTopic.key

section
variable [DecidableEq κ]

/-- The last native call for the key of topic `i` is its own start. -/
def Socket.InForce (s:Socket κ) (i:ℕ):Prop:=
 (s.native.filter fun call=>s.keyOf call.topic=s.keyOf i).getLast?=some (.start i true)

instance Socket.InForce.decidable (s:Socket κ) (i:ℕ):Decidable (s.InForce i):=
 inferInstanceAs (Decidable (_=some _))

end

def StartClear (s:Socket κ):Event κ→Prop
 | .start i _=>∀ a∈s.owed,s.keyOf a≠s.keyOf i
 | _=>True

instance StartClear.decidable [DecidableEq κ] (s:Socket κ):∀ event,Decidable (StartClear s event)
 | .start i _=>inferInstanceAs (Decidable (∀ a∈s.owed,s.keyOf a≠s.keyOf i))
 | .watch _ | .settle _ | .report _ | .close _ | .remove _ | .stop _ | .closeSocket | .sweep=>.isTrue trivial

/-- No stop of an earlier topic comes after the start of a later one with its key. -/
def Socket.StopsFirst (s:Socket κ):Prop:=
 s.native.Pairwise fun earlier late=>∀ a b ok,earlier=.start b ok→ late=.stop a→ s.keyOf a=s.keyOf b→ b≤a

structure Socket.Ordered [DecidableEq κ] (s:Socket κ):Prop where
 waits:∀ a∈s.owed,∀ b ok,a<b→ s.keyOf a=s.keyOf b → .start b ok∉s.native
 stopsFirst:s.StopsFirst
 inForce:∀ {i:ℕ} {topic:WebsocketTopic κ},s.created[i]?=some topic→ s.topics topic.key=some i →
  topic.launch.outcome=some true→ s.InForce i

theorem Socket.Counted.known (h:s.Counted) {call:NativeCall} (hcall:call∈s.native):
 call.topic<s.created.length:=by
 have hkno:∃ topic,s.created[call.topic]?=some topic:=by
  have hpos:=count_pos_iff.mpr hcall
  cases call with
  | start=>
   rw[h.starts] at hpos
   split at hpos
   next hsome=>
    obtain ⟨topic,htp,-⟩:=bind_eq_some_iff.mp hsome
    exact ⟨topic,htp⟩
   next=>cases hpos
  | stop k=>
   obtain ⟨topic,htp,-⟩:=h.finished (k:=k) (by rw[Socket.ended]; omega)
   exact ⟨topic,htp⟩
 grind

theorem Socket.Counted.owed_known (h:s.Counted) (howed:i∈s.owed):
 ∃ topic,s.created[i]?=some topic∧s.topics topic.key≠some i:=by
 have hpos:0<s.ended i:=Nat.lt_of_lt_of_le (count_pos_iff.mpr howed) (Nat.le_add_right _ _)
 obtain ⟨topic,htp,-,-,hout⟩:=h.finished hpos
 exact ⟨topic,htp,hout⟩

theorem keyOf_setTopic (htp:s.created[i]?=some topic) (hcr:s'.created=s.created.set i new)
 (hkey:new.key=topic.key):s'.keyOf=s.keyOf:=by
 grind [Socket.keyOf,getElem?_moved_self,getElem?_moved_ne]

theorem keyOf_createTopic [DecidableEq κ] (s:Socket κ) (key:κ) {k:ℕ} (hk:k<s.created.length):
 (s.createTopic key).keyOf k=s.keyOf k:=by
 rw[Socket.keyOf,Socket.keyOf,Socket.createTopic,getElem?_started,if_neg (by omega)]

theorem Socket.Linked.le_of_keyOf (h:s.Linked) (htp:s.created[i]?=some topic)
 (hmap:s.topics topic.key=some i) {k:ℕ} (hkey:s.keyOf k=s.keyOf i):k≤ i:=by
 rw[Socket.keyOf,Socket.keyOf,htp] at hkey
 obtain ⟨t,ht,hkey⟩:=map_eq_some_iff.mp hkey
 exact h.newest hmap ht hkey

theorem Socket.Sound.mapped_of_live (h:s.Sound) (htp:s.created[i]?=some topic) (hf:topic.failed=false)
 {sub1:Subscription} (hsubs:s.subscriptions[j]?=some sub1)
 (howne:sub1.topic=i) (hlive:sub1.closed=false):s.topics topic.key=some i:=by
 by_contra hout
 obtain ⟨hcl,own,hown,hin⟩:=h.linked.owner hsubs
 rw[howne] at hown
 cases htp.symm.trans hown
 rcases h.served.unused htp hout with hfail | hnil
 all_goals grind

section
variable [DecidableEq κ]

theorem Socket.Ordered.touched (h:s.Ordered) (hlk:s.Linked) {ext:List ℕ}
 (htou:Touches s s' i topic new ext):s'.Ordered:=by
 have htp:=htou.topic
 have hkeOf:=keyOf_setTopic htp htou.created htou.key
 refine ⟨?_,?_,?_⟩
 · intro a ha b ok hlt hsame hstrt
   rw[hkeOf] at hsame
   rw[htou.native] at hstrt
   rw[htou.owed] at ha
   rcases mem_append.mp ha with ha | ha
   · exact h.waits a ha b ok hlt hsame hstrt
   · have ha:a=i:=by
      rcases htou.extra_cases with rfl | rfl
      · cases ha
      · exact mem_singleton.mp ha
     subst ha
     have hle:=hlk.le_of_keyOf htp htou.mapped hsame.symm
     omega
 · rw[Socket.StopsFirst,htou.native,hkeOf]
   exact h.stopsFirst
 · intro k t hk hin hout
   rw[Socket.InForce,htou.native,hkeOf]
   rw[htou.created] at hk
   rcases moved_cases htp hk with ⟨rfl,rfl⟩ | ⟨hne,hk⟩
   · exact h.inForce htp htou.mapped (htou.outcome▸hout)
   · exact h.inForce hk ((htou.topics.eq_some_iff hne).mp hin) hout

theorem Socket.Ordered.createTopic (h:s.Ordered) (hcou:s.Counted) {key:κ}:(s.createTopic key).Ordered:=by
 have hnew:=fun {k:ℕ}=>keyOf_createTopic s key (k:=k)
 refine ⟨?_,?_,?_⟩
 · intro a ha b ok hlt hsame hstrt
   have hb:=hcou.known hstrt
   rw[hnew (show b<s.created.length from hb),hnew (Nat.lt_trans hlt hb)] at hsame
   exact h.waits a ha b ok hlt hsame hstrt
 · refine Pairwise.imp_of_mem ?_ h.stopsFirst
   rintro ear late hear hlate hpair a b ok rfl rfl hsame
   have hb:b<s.created.length:=hcou.known hear
   grind
 · intro k t hk hmap hout
   rcases started_cases hk with ⟨rfl,rfl⟩ | ⟨hlt,hk⟩
   · cases hout
   · have hfor:=h.inForce hk (of_put hmap hlt) hout
     rw[Socket.InForce] at hfor ⊢
     rw[←hfor,hnew hlt]
     refine congrArg List.getLast? (filter_congr ?_)
     intro call hcall
     rw[hnew (hcou.known hcall)]

theorem Socket.Ordered.startReturned (h:s.Ordered) (hlk:s.Linked) {ok:Bool}
 (hcle:StartClear s (.start i ok)) (htp:s.created[i]?=some topic)
 (hmapp:s.topics topic.key=some i):(s.startReturned i ok topic).Ordered:=by
 have hkeOf:(s.startReturned i ok topic).keyOf=s.keyOf:=keyOf_setTopic htp rfl rfl
 refine ⟨?_,?_,?_⟩
 · intro a ha b ok' hlt hsame hstrt
   rw[hkeOf] at hsame
   rcases mem_append.mp hstrt with hstrt | hstrt
   · exact h.waits a ha b ok' hlt hsame hstrt
   · cases mem_singleton.mp hstrt
     exact hcle a ha hsame
 · rw[Socket.StopsFirst,hkeOf]
   refine pairwise_append.mpr ⟨h.stopsFirst,pairwise_singleton _ _,?_⟩
   grind
 · intro k t hk hmap hout
   rw[Socket.InForce,hkeOf]
   rcases moved_cases htp hk with ⟨rfl,rfl⟩ | ⟨hne,hk⟩
   · cases hout
     simp[Socket.startReturned,NativeCall.topic]
   · -- the topic that starts is the one in the map for its key
     have hoth:s.keyOf i≠s.keyOf k:=by
      intro hsame
      have hle:=hlk.le_of_keyOf hk hmap hsame
      have hge:=hlk.le_of_keyOf htp hmapp hsame.symm
      omega
     have hfor:=h.inForce hk hmap hout
     grind [Socket.InForce,Socket.startReturned,NativeCall.topic]

theorem Socket.Ordered.callStop (h:s.Ordered) (hlk:s.Linked) (hcou:s.Counted) {ix:ℕ}
 (howed:s.owed[ix]?=some i):(s.callStop ix i).Ordered:=by
 have hi:i∈s.owed:=mem_of_getElem? howed
 refine ⟨?_,?_,?_⟩
 · intro a ha b ok hlt hsame hstrt
   rcases mem_append.mp hstrt with hstrt | hstrt
   · exact h.waits a (mem_of_mem_eraseIdx ha) b ok hlt hsame hstrt
   · cases mem_singleton.mp hstrt
 · refine pairwise_append.mpr ⟨h.stopsFirst,pairwise_singleton _ _,?_⟩
   intro ear hear late hlate a b ok hstrt hstop hsame
   rw[mem_singleton.mp hlate] at hstop
   cases hstop
   subst hstrt
   by_contra hle
   exact h.waits i hi b ok (by omega) hsame hear
 · intro k t hk hmap hout
   have hoth:s.keyOf i≠s.keyOf k:=by
    intro hsame
    have hle:=hlk.le_of_keyOf hk hmap hsame
    have hne:i≠k:=by
     rintro rfl
     obtain ⟨t',ht',hunm⟩:=hcou.owed_known hi
     cases ht'.symm.trans hk
     exact hunm hmap
    have hct:s.native.count (.start k true)=1:=by
     have hk:s.created[k]?=some t:=hk
     rw[hcou.starts,hk,bind_some,hout,if_pos rfl]
    exact h.waits i hi k true (by omega) hsame (count_pos_iff.mp (by omega))
   have hfor:=h.inForce hk hmap hout
   rw[Socket.InForce] at hfor
   change ((s.native++[NativeCall.stop i]).filter fun call=>s.keyOf call.topic=s.keyOf k).getLast?=_
   simpa[NativeCall.topic,hoth] using hfor

theorem Socket.Ordered.moves (h:s.Ordered) (hso:s.Sound) (hcle:StartClear s event)
 (hmv:NativeMoves s event s'):s'.Ordered:=by
 cases hmv with
 | quiet hcr htop howed hnat=>
  have hkeOf:s'.keyOf=s.keyOf:=by
   funext k
   rw[Socket.keyOf,Socket.keyOf,hcr]
  refine ⟨?_,?_,?_⟩
  · rw[howed,hkeOf,hnat]
    exact h.waits
  · rw[Socket.StopsFirst,hnat,hkeOf]
    exact h.stopsFirst
  · intro i topic htp hmap hout
    rw[Socket.InForce,hnat,hkeOf]
    exact h.inForce (hcr▸htp) (htop▸hmap) hout
 | created=>exact h.createTopic hso.counted
 | started htp _ hmapp=>exact h.startReturned hso.linked hcle htp hmapp
 | touched htou=>exact h.touched hso.linked htou
 | stopped howed=>exact h.callStop hso.linked hso.counted howed

/-- A live topic has its native stream in force. -/
theorem native_stream_in_force {events:List (Event κ)} (hclear:Along step StartClear {} events)
 (hrun:run step {} events=some s):
 s.StopsFirst∧∀ (i j:ℕ) (topic:WebsocketTopic κ) (subscription:Subscription),
  s.created[i]?=some topic→ topic.launch.outcome=some true→ topic.failed=false →
  s.subscriptions[j]?=some subscription→ subscription.topic=i→ subscription.closed=false→ s.InForce i:=by
 have hinv:s.Sound∧s.Ordered:=by
  refine invariant_along (fun s=>s.Sound∧s.Ordered) ?_ ⟨Socket.sound_new,nofun,.nil,nofun⟩ hclear hrun
  rintro s event next ⟨hso,hord⟩ hok hstep
  exact ⟨hso.step hstep,hord.moves hso hok (hso.native_moves hstep)⟩
 obtain ⟨hso,hord⟩:=hinv
 refine ⟨hord.stopsFirst,?_⟩
 intro i j topic subscription htp hstd hf hsubs howne hlive
 exact hord.inForce htp (hso.mapped_of_live htp hf hsubs howne hlive) hstd

end

def reopenedInTurn:List (Event ℕ):=
 [.watch 7,.start 0 true,.settle 0,.report 0,.close 0,.remove 0,.watch 7,.stop 0,.start 1 true,.settle 1,
  .report 1]

theorem native_stream_in_force_reopened :
 ∃ s,run step {} reopenedInTurn=some s∧s.native=[.start 0 true,.stop 0,.start 1 true]∧s.InForce 1:=by
 have hcle:Along step StartClear {} reopenedInTurn:=by decide
 refine ⟨_,rfl,rfl,?_⟩
 exact (native_stream_in_force hcle rfl).2 1 1 _ _ rfl rfl rfl rfl rfl rfl

theorem late_stop_ends_newer_stream :
 ∃ s:Socket ℕ,run step {} [.watch 7,.start 0 true,.settle 0,.report 0,.close 0,.remove 0,.watch 7,
  .start 1 true,.stop 0,.settle 1,.report 1]=some s∧s.native=[.start 0 true,.start 1 true,.stop 0]∧
  s.topics 7=some 1∧s.subscriptions[1]?=some {topic:=1,watching:=false}∧¬s.InForce 1:=
 ⟨_,rfl,rfl,rfl,rfl,by decide⟩

end BolterTrader.TopicLifecycle
