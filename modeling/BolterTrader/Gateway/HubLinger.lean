import BolterTrader.Gateway.Hub

/-! The hub under a clock (`gateway/hub/hub.go`): a linger timer fires no sooner than its
period after it was set, and its function may wait for the lock for as long as it takes. -/
namespace BolterTrader.GatewayHub
open Foundations Current KeyedRows Threads Transition List Option

variable {δ π σ:Type}

structure Closure where
 topic:ℕ
 time:Int
 occupied:Int
 deriving DecidableEq

structure Clocked (π σ:Type) where
 hub:Hub π σ:={}
 now:Int:=0
 armed:List Int:=[]
 occupied:ℕ→Int:=fun _=>0
 closures:List Closure:=[]

inductive ClockedEvent (δ σ:Type) where
 | pass (time:ℕ)
 | hub (event:Event δ σ)

def Hub.hasSink (h:Hub π σ) (i:ℕ):Bool:=
 match h.created[i]? with
 | none=>false
 | some topic=>!topic.sinks.isEmpty

def Clocked.touch (s:Clocked π σ):Clocked π σ:=
 {s with occupied:=fun i=>if s.hub.hasSink i then s.now else s.occupied i}

def Clocked.due (linger:Int) (s:Clocked π σ):Event δ σ→Bool
 | .fire t=>
  match s.armed[t]? with
  | some armed=>armed+linger≤ s.now
  | none=>false
 | _=>true

def Hub.lapsing (h:Hub π σ) (t:ℕ):Option ℕ:=
 h.timers[t]?.bind fun timer=>
  (h.created[timer.topic]?.filter fun topic=>h.topics topic.key=some timer.topic∧topic.sinks.isEmpty).map
   fun _=>timer.topic

def Clocked.closing (s:Clocked π σ):Event δ σ→List Closure
 | .expire t=>((s.hub.lapsing t).map fun i=>{topic:=i,time:=s.now,occupied:=s.occupied i}).toList
 | _=>[]

def Clocked.follow (s:Clocked π σ) (event:Event δ σ) (hub:Hub π σ):Clocked π σ:=
 {s with
   hub
   armed:=s.armed++List.replicate (hub.timers.length-s.hub.timers.length) s.now
   closures:=s.closures++s.closing event}

variable [DecidableEq σ]

def Clocked.step (wire:Wire δ π) (linger:Int) (s:Clocked π σ):ClockedEvent δ σ→Option (Clocked π σ)
 | .pass time=>some (Clocked.touch {s with now:=s.now+time})
 | .hub event=>
  if s.due linger event then (GatewayHub.step wire s.hub event).map fun hub=>(s.follow event hub).touch else none

def Hub.lingerState (h:Hub π σ) (key:Key):Option TimerState:=
 (h.topics key).bind fun i=>h.created[i]?.bind fun topic=>topic.linger.bind fun t=>
  h.timers[t]?.map Timer.state

def Hub.InTime (h:Hub π σ):Event δ σ→Prop
 | .subscribe key _=>h.lingerState key≠some .fired
 | _=>True

def Clocked.InTime (s:Clocked π σ):ClockedEvent δ σ→Prop
 | .pass _=>True
 | .hub event=>s.hub.InTime event

instance (h:Hub π σ):∀ event:Event δ σ,Decidable (h.InTime event)
 | .subscribe key _=>inferInstanceAs (Decidable (h.lingerState key≠some .fired))
 | .unsubscribe .. | .fire _ | .expire _ | .close | .emit .. | .loop _ | .feedEnds .. | .reportEnd .. | .wake _
 | .quit _=>.isTrue trivial

instance (s:Clocked π σ):∀ event:ClockedEvent δ σ,Decidable (s.InTime event)
 | .pass _=>.isTrue trivial
 | .hub event=>inferInstanceAs (Decidable (s.hub.InTime event))

/-! ## One timer for a topic -/

structure Hub.Current (h:Hub π σ):Prop where
 known:∀ (t:ℕ) (timer:Timer),h.timers[t]?=some timer→ timer.topic<h.created.length
 linger:∀ (t:ℕ) (timer:Timer) (topic:Topic π σ),h.timers[t]?=some timer→ timer.state≠.over →
  h.created[timer.topic]?=some topic→ h.topics topic.key=some timer.topic→ topic.linger=some t

def Inherits (timers' timers:List Timer):Prop:=
 ∀ (t:ℕ) (timer:Timer),timers'[t]?=some timer →
  ∃ old,timers[t]?=some old∧old.topic=timer.topic∧(timer.state≠.over→ old.state≠.over)

def Stops (timers' timers:List Timer):Prop:=
 ∀ (t:ℕ) (timer:Timer),timers'[t]?=some timer →
  ∃ old,timers[t]?=some old∧old.topic=timer.topic∧(timer.state=.over∨timer=old)

section
omit [DecidableEq σ]
variable {h h':Hub π σ} {i:ℕ} {topic new:Topic π σ}

theorem Stops.inherits {timers tmr':List Timer} (h:Stops tmr' timers):Inherits tmr' timers:=by
 intro t tmr htm
 obtain ⟨old,hold,htp,hst⟩:=h t tmr htm
 grind

theorem stops_refl (timers:List Timer):Stops timers timers:=fun _ tmr htm=>⟨tmr,htm,rfl,.inr rfl⟩

theorem stops_set {timers:List Timer} {t:ℕ} {tmr:Timer} (htm:timers[t]?=some tmr):
 Stops (timers.set t {tmr with state:=.over}) timers:=by
 intro k oth hoth
 grind

theorem stop_cases (tmr:Timer):
 tmr.topic=tmr.stop.topic∧(tmr.stop.state=.over∨tmr.stop=tmr∧tmr.state≠.armed):=by
 grind [Timer.stop]

theorem stops_stopLinger (linger:Option ℕ) (timers:List Timer):Stops (stopLinger linger timers) timers:=by
 cases linger with
 | none=>exact stops_refl timers
 | some=>
  intro t tmr htm
  simp only[stopLinger,List.getElem?_modify] at htm
  obtain ⟨old,hold,rfl⟩:=map_eq_some_iff.mp htm
  refine ⟨old,hold,?_⟩
  split
  · exact (stop_cases old).imp_right (Or.imp_right And.left)
  · exact ⟨rfl,.inr rfl⟩

theorem stops_closeAll (h:Hub π σ):Stops h.closeAll.timers h.timers:=by
 intro t tmr htm
 rw[Hub.closeAll,List.getElem?_mapIdx] at htm
 obtain ⟨old,hold,rfl⟩:=map_eq_some_iff.mp htm
 refine ⟨old,hold,?_⟩
 split
 · exact (stop_cases old).imp_right (Or.imp_right And.left)
 · exact ⟨rfl,.inr rfl⟩

theorem inherits_fired {timers:List Timer} {t:ℕ} {tmr:Timer} (htm:timers[t]?=some tmr)
 (hst:tmr.state=.armed):Inherits (timers.set t {tmr with state:=.fired}) timers:=by
 intro k oth hoth
 grind

theorem Hub.Current.known_of_inherits (hcurr:h.Current) (htim:Inherits h'.timers h.timers)
 (hlen:h.created.length≤h'.created.length):
 ∀ (t:ℕ) (tmr:Timer),h'.timers[t]?=some tmr→ tmr.topic<h'.created.length:=by
 intro t tmr htm
 obtain ⟨old,hold,htp,-⟩:=htim t tmr htm
 have hlt:=hcurr.known t old hold
 omega

theorem Hub.Current.moved (hcurr:h.Current) (htp:h.created[i]?=some topic)
 (hcr:h'.created=h.created.set i new) (hkey:new.key=topic.key)
 (htop:∀ key k,h'.topics key=some k→ h.topics key=some k) (htim:Inherits h'.timers h.timers)
 (hown:h.topics topic.key=some i → ∀ (t:ℕ) (tmr:Timer),h'.timers[t]?=some tmr →
  tmr.state≠.over→ topic.linger=some t→ new.linger=some t):h'.Current:=by
 refine ⟨hcurr.known_of_inherits htim (by simp[hcr]),?_⟩
 intro t tmr oth htm hst hin hmap
 have hmap:=htop _ _ hmap
 obtain ⟨old,hold,hsame,hpd⟩:=htim t tmr htm
 rw[hcr] at hin
 obtain ⟨heq,rfl⟩ | ⟨-,hin⟩:=moved_cases htp hin
 · rw[heq,hkey] at hmap
   rw[heq] at hsame
   apply hown hmap t tmr htm hst
   rw[←hsame] at htp hmap
   exact hcurr.linger t old topic hold (hpd hst) htp hmap
 · rw[←hsame] at hin hmap
   exact hcurr.linger t old oth hold (hpd hst) hin hmap

theorem Hub.Current.detach [DecidableEq σ] (hcurr:h.Current) (htp:h.created[i]?=some topic) (sink:σ):
 (h.detach i sink topic).Current:=by
 unfold Hub.detach
 dsimp only
 split
 next=>exact hcurr.moved htp rfl rfl (fun _ _=>id) (stops_refl _).inherits fun _ _ _ _ _ hlg=>hlg
 next hlast=>
  have hnone:topic.linger=none:=by simpa using (not_or.mp hlast).2
  refine ⟨?_,?_⟩
  · intro t tmr htm
    rw[Hub.setTopic,length_set]
    obtain ⟨-,rfl⟩ | ⟨-,hold⟩:=started_cases htm
    · grind
    · exact hcurr.known t tmr hold
  · intro t tmr oth htm hst hin hmap
    obtain ⟨heq,rfl⟩ | ⟨hne,hin⟩:=moved_cases htp hin
    · obtain ⟨rfl,-⟩ | ⟨-,hold⟩:=started_cases htm
      · rfl
      · -- an old timer of the topic would be its linger
        rw[←heq] at htp hmap
        have hlg:=hcurr.linger t tmr topic hold hst htp hmap
        grind
    · obtain ⟨-,rfl⟩ | ⟨-,hold⟩:=started_cases htm
      · exact absurd rfl hne
      · exact hcurr.linger t tmr oth hold hst hin hmap

end

section
variable {wire:Wire δ π} {h h':Hub π σ} {i:ℕ} {topic:Topic π σ} {event:Event δ σ}

theorem armed_of_fire {t:ℕ} (hstep:GatewayHub.step wire h (.fire t)=some h'):
 ∃ tmr,h.timers[t]?=some tmr∧tmr.state=.armed:=by
 obtain ⟨tmr,htm,-⟩:=map_eq_some_iff.mp hstep
 grind

theorem fired_of_expire {t:ℕ} (hstep:GatewayHub.step wire h (.expire t)=some h'):
 ∃ tmr,h.timers[t]?=some tmr∧tmr.state=.fired:=by
 obtain ⟨tmr,htm,-⟩:=bind_eq_some_iff.mp hstep
 grind

omit [DecidableEq σ] in
theorem lingerState_eq {key:Key} {t:ℕ} {tmr:Timer} (hmap:h.topics key=some i)
 (htp:h.created[i]?=some topic) (hlg:topic.linger=some t) (htm:h.timers[t]?=some tmr):
 h.lingerState key=some tmr.state:=by
 simp[Hub.lingerState,hmap,htp,hlg,htm]

theorem Hub.Current.step (hcurr:h.Current) (hint:h.InTime event)
 (hstep:GatewayHub.step wire h event=some h'):h'.Current:=by
 cases moves_of_step hstep with
 | idle=>exact hcurr
 | opened=>
  refine ⟨hcurr.known_of_inherits (stops_refl _).inherits (by simp[created_opened]),?_⟩
  intro t timer oth htm hst hin hmap
  have hlt:=hcurr.known t timer htm
  rw[created_opened,List.getElem?_append_left hlt] at hin
  exact hcurr.linger t timer oth htm hst hin (of_put hmap hlt)
 | @attached key sink i topic hmap htp=>
  refine hcurr.moved htp rfl rfl (fun _ _=>id) (stops_stopLinger topic.linger h.timers).inherits ?_
  intro _ t timer htm hst hlg
  -- the timer was stopped in time
  have htm:(stopLinger topic.linger h.timers)[t]?=some timer:=htm
  simp only[hlg,stopLinger,List.getElem?_modify] at htm
  obtain ⟨old,hold,rfl⟩:=map_eq_some_iff.mp htm
  rw[if_pos trivial] at hst
  rw[Hub.InTime,lingerState_eq hmap htp hlg hold] at hint
  obtain hover | ⟨heq,harm⟩:=(stop_cases old).2
  · exact absurd hover hst
  · rw[heq] at hst
    cases hold : old.state<;>simp_all
 | @detached key sink i topic hmap htp=>exact hcurr.detach htp sink
 | @fired t timer htm=>
  obtain ⟨arm,harm,hst⟩:=armed_of_fire hstep
  cases htm.symm.trans harm
  have htim:=inherits_fired htm hst
  refine ⟨hcurr.known_of_inherits htim (Nat.le_refl _),?_⟩
  intro k oth topic hoth hpd hin hmap
  obtain ⟨old,hold,hsame,hkept⟩:=htim k oth hoth
  rw[←hsame] at hin hmap
  exact hcurr.linger k old topic hold (hkept hpd) hin hmap
 | @expired t timer topic htm=>
  have htim:=(stops_set htm).inherits
  refine ⟨hcurr.known_of_inherits htim (Nat.le_refl _),?_⟩
  intro k oth topic hoth hpd hin hmap
  obtain ⟨old,hold,hsame,hkept⟩:=htim k oth hoth
  rw[←hsame] at hin hmap
  exact hcurr.linger k old topic hold (hkept hpd) hin hmap
 | @lapsed t timer topic htm htp=>
  have htim:=(stops_set htm).inherits
  exact hcurr.moved htp rfl rfl (fun _ _ hk=>(of_take hk).2) htim fun _ _ _ _ _ hlg=>hlg
 | closed=>
  refine ⟨hcurr.known_of_inherits (stops_closeAll h).inherits (by simp[Hub.closeAll]),?_⟩
  intro t timer topic _ _ _ hmap
  simp[Hub.closeAll] at hmap
 | moved htp hseat=>
  refine hcurr.moved htp rfl hseat.key (fun _ _=>id) (stops_refl _).inherits ?_
  intro _ t timer _ _ hlg
  rw[hseat.linger,hlg]
 | published htp _ _ hseat=>
  refine hcurr.moved htp rfl hseat.key (fun _ _=>id) (stops_refl _).inherits ?_
  intro _ t timer _ _ hlg
  rw[hseat.linger,hlg]

end

section
variable {wire:Wire δ π} {h h':Hub π σ} {event:Event δ σ}

theorem fired_cases (hmv:Moves h event h') {t:ℕ} {tmr:Timer} (htm:h'.timers[t]?=some tmr)
 (hfir:tmr.state=.fired):
 (∃ old,h.timers[t]?=some old∧old.state=.fired)∨event=.fire t:=by
 have hsto:Stops h'.timers h.timers → ∃ old,h.timers[t]?=some old∧old.state=.fired:=by
  intro hsto
  obtain ⟨old,hold,-,hover | rfl⟩:=hsto t tmr htm
  all_goals grind
 cases hmv with
 | idle | opened | moved | published=>exact .inl (hsto (stops_refl _))
 | attached=>exact .inl (hsto (stops_stopLinger _ _))
 | detached=>
  unfold Hub.detach at htm
  dsimp only at htm
  split at htm
  next=>exact .inl ⟨tmr,htm,hfir⟩
  grind
 | fired hold=>
  grind
 | expired hold | lapsed hold=>exact .inl (hsto (stops_set hold))
 | closed=>exact .inl (hsto (stops_closeAll h))

theorem timers_length_le (hmv:Moves h event h'):h.timers.length≤h'.timers.length:=by
 cases hmv with
 | @attached key sink i topic=>
  show h.timers.length≤(stopLinger topic.linger h.timers).length
  cases topic.linger<;>simp[stopLinger]
 | detached=>
  unfold Hub.detach
  dsimp only
  split
  · exact Nat.le_refl _
  · simp
 | fired=>simp
 | expired=>simp[Hub.expireTimer]
 | lapsed=>simp[Hub.expireTimer,Hub.closeTopic,Hub.setTopic]
 | closed=>simp[Hub.closeAll]
 | _=>exact Nat.le_refl _

theorem lingered_before (hmv:Moves h event h') {i t:ℕ} {topic:Topic π σ} (htp:h'.created[i]?=some topic)
 (hmap:h'.topics topic.key=some i) (hlg:topic.linger=some t) (ht:t<h.timers.length):
 ∃ old,h.created[i]?=some old∧h.topics old.key=some i∧old.linger=some t:=by
 cases hmv with
 | opened=>
  rw[created_opened] at htp
  obtain ⟨-,rfl⟩ | ⟨hlt,hold⟩:=started_cases htp
  · simp at hlg
  · exact ⟨topic,hold,of_put hmap hlt,hlg⟩
 | attached _ hin=>
  obtain ⟨-,rfl⟩ | ⟨-,hold⟩:=moved_cases hin htp
  · simp at hlg
  · exact ⟨topic,hold,hmap,hlg⟩
 | @detached key sink k old _ hin=>
  unfold Hub.detach at htp hmap
  dsimp only at htp hmap
  split at htp
  next hsta=>
   rw[if_pos hsta] at hmap
   obtain ⟨rfl,rfl⟩ | ⟨-,hold⟩:=moved_cases hin htp
   · exact ⟨old,hin,hmap,hlg⟩
   · exact ⟨topic,hold,hmap,hlg⟩
  next hlast=>
   rw[if_neg hlast] at hmap
   obtain ⟨-,rfl⟩ | ⟨-,hold⟩:=moved_cases hin htp
   · grind
   · exact ⟨topic,hold,hmap,hlg⟩
 | lapsed _ hin=>
  obtain ⟨rfl,rfl⟩ | ⟨-,hold⟩:=moved_cases hin htp
  · grind
  · exact ⟨topic,hold,(of_take hmap).2,hlg⟩
 | closed=>simp[Hub.closeAll] at hmap
 | @moved _ k old new hin hseat=>
  obtain ⟨rfl,rfl⟩ | ⟨-,hold⟩:=moved_cases hin htp
  · rw[hseat.key] at hmap
    rw[hseat.linger] at hlg
    exact ⟨old,hin,hmap,hlg⟩
  · exact ⟨topic,hold,hmap,hlg⟩
 | @published _ k old new _ _ hin _ _ hseat=>
  obtain ⟨rfl,rfl⟩ | ⟨-,hold⟩:=moved_cases hin htp
  · have hmap:h.topics topic.key=some i:=hmap
    rw[hseat.key] at hmap
    rw[hseat.linger] at hlg
    exact ⟨old,hin,hmap,hlg⟩
  · exact ⟨topic,hold,hmap,hlg⟩
 | _=>exact ⟨topic,htp,hmap,hlg⟩

end

/-! ## A full period without a sink -/

structure Clocked.Waits (linger:Int) (s:Clocked π σ):Prop where
 sound:s.hub.Sound
 current:s.hub.Current
 length:s.armed.length=s.hub.timers.length
 since:∀ (i:ℕ) (topic:Topic π σ) (t:ℕ) (armed:Int),s.hub.created[i]?=some topic →
  s.hub.topics topic.key=some i→ topic.linger=some t→ s.armed[t]?=some armed→ s.occupied i≤armed
 due:∀ (t:ℕ) (timer:Timer) (armed:Int),s.hub.timers[t]?=some timer→ timer.state=.fired →
  s.armed[t]?=some armed→ armed+linger≤ s.now
 past:∀ i,s.occupied i≤ s.now
 closures:∀ c∈s.closures,c.occupied+linger≤c.time

section
variable {wire:Wire δ π} {linger:Int} {s next:Clocked π σ} {event:Event δ σ} {hub:Hub π σ}

omit [DecidableEq σ] in
theorem hasSink_of_linger (hlin:s.hub.Lingers) {i t:ℕ} {topic:Topic π σ} (htp:s.hub.created[i]?=some topic)
 (hmap:s.hub.topics topic.key=some i) (hlg:topic.linger=some t):s.hub.hasSink i=false:=by
 have hnil:=((hlin i topic htp hmap).2 t hlg).1
 simp[Hub.hasSink,htp,hnil]

omit [DecidableEq σ] in
theorem Clocked.Waits.touch (h:s.Waits linger):s.touch.Waits linger:=
 {h with
   since:=by
    intro i topic t arm htp hmap hlg harm
    have hsink:=hasSink_of_linger h.sound.lingers htp hmap hlg
    simp only[Clocked.touch]
    rw[hsink]
    exact h.since i topic t arm htp hmap hlg harm
   past:=by
    intro i
    have hpast:=h.past i
    simp only[Clocked.touch]
    split<;>omega}

omit [DecidableEq σ] in
theorem Clocked.Waits.pass (h:s.Waits linger) (time:ℕ):Clocked.Waits linger {s with now:=s.now+time}:=
 {h with
   due:=by
    intro t tmr arm htm hfir harm
    have hdue:=h.due t tmr arm htm hfir harm
    show arm+linger≤ s.now+time
    omega
   past:=by
    intro i
    have hpast:=h.past i
    show s.occupied i≤ s.now+time
    omega}

omit [DecidableEq σ] in
theorem Clocked.Waits.closing (h:s.Waits linger) (hfir:∀ t,event=.expire t →
 ∃ tmr,s.hub.timers[t]?=some tmr∧tmr.state=.fired):
 ∀ c∈s.closing event,c.occupied+linger≤c.time:=by
 intro c hc
 cases event with
 | expire t=>
  obtain ⟨tmr,htm,hst⟩:=hfir t rfl
  simp only[Clocked.closing,Hub.lapsing,htm,bind_some,mem_toList,Option.map_map] at hc
  obtain ⟨topic,htp,rfl⟩:=map_eq_some_iff.mp hc
  obtain ⟨htp,hlap⟩:=filter_eq_some_iff.mp htp
  simp only[decide_eq_true_eq] at hlap
  have hlg:=h.current.linger t tmr topic htm (by rw[hst]; nofun) htp hlap.1
  have hlt:t<s.armed.length:=by
   rw[h.length]
   grind
  have harm:=List.getElem?_eq_getElem hlt
  have hsin:=h.since tmr.topic topic t _ htp hlap.1 hlg harm
  have hdue:=h.due t tmr _ htm hst harm
  grind
 | _=>simp[Clocked.closing] at hc

omit [DecidableEq σ] in
theorem armed_follow {t:ℕ} {arm:Int} (hlen:s.armed.length=s.hub.timers.length)
 (h:(s.follow event hub).armed[t]?=some arm):
 t<s.hub.timers.length∧s.armed[t]?=some arm∨s.hub.timers.length≤t∧arm=s.now:=by
 grind [Clocked.follow]

theorem Clocked.Waits.follow (h:s.Waits linger) (hint:s.hub.InTime event) (hdue:s.due linger event=true)
 (hstep:GatewayHub.step wire s.hub event=some hub):(s.follow event hub).Waits linger:=by
 have hmv:=moves_of_step hstep
 have hlen:=timers_length_le hmv
 refine ⟨h.sound.step hstep,h.current.step hint hstep,?_,?_,?_,h.past,?_⟩
 · show (s.armed++List.replicate _ _).length=hub.timers.length
   rw[length_append,length_replicate,h.length]
   omega
 · intro i topic t arm htp hmap hlg harm
   obtain ⟨hlt,hold⟩ | ⟨-,rfl⟩:=armed_follow h.length harm
   · obtain ⟨old,hin,hmapp,hlin⟩:=lingered_before hmv htp hmap hlg hlt
     exact h.since i old t arm hin hmapp hlin hold
   · exact h.past i
 · intro t tmr arm htm hfir harm
   show arm+linger≤ s.now
   obtain ⟨old,hold,hbef⟩ | rfl:=fired_cases hmv htm hfir
   · have hlt:=(List.getElem?_eq_some_iff.mp hold).1
     obtain ⟨-,harm⟩ | ⟨hge,-⟩:=armed_follow h.length harm
     · exact h.due t old arm hold hbef harm
     · omega
   · obtain ⟨old,hold,-⟩:=armed_of_fire hstep
     have hlt:=(List.getElem?_eq_some_iff.mp hold).1
     obtain ⟨-,harm⟩ | ⟨hge,-⟩:=armed_follow h.length harm
     · simpa[Clocked.due,harm] using hdue
     · omega
 · intro c hc
   obtain hold | hnew:=mem_append.mp hc
   · exact h.closures c hold
   · apply h.closing _ c hnew
     rintro t rfl
     exact fired_of_expire hstep

theorem Clocked.Waits.step {e:ClockedEvent δ σ} (h:s.Waits linger) (hint:s.InTime e)
 (hstep:s.step wire linger e=some next):next.Waits linger:=by
 cases e with
 | pass time=>
  cases hstep
  exact (h.pass time).touch
 | hub=>
  simp only[Clocked.step,ite_none_right_eq_some] at hstep
  obtain ⟨hdue,hstep⟩:=hstep
  obtain ⟨hub,hhub,rfl⟩:=map_eq_some_iff.mp hstep
  exact (h.follow hint hdue hhub).touch

/-- A topic closes by linger only after one whole period without a subscriber. -/
theorem lingers_full_period {events:List (ClockedEvent δ σ)}
 (hintime:Along (Clocked.step wire linger) Clocked.InTime ({}:Clocked π σ) events)
 (hrun:run (Clocked.step wire linger) ({}:Clocked π σ) events=some s):
 ∀ c∈s.closures,c.occupied+linger≤c.time:=by
 have hwai:s.Waits linger:=by
  apply invariant_along (Clocked.Waits linger) _ _ hintime hrun
  · intro s e next h hok hstep
    exact h.step hok hstep
  · exact ⟨Hub.sound_new,⟨by simp,by simp⟩,rfl,by simp,by simp,fun _=>Int.le_refl 0,by simp⟩
 exact hwai.closures

end

def silentWire:Wire Unit Unit:={marshal:=fun _=>none,disconnected:=()}
def bookKey:Key:={channel:="book" }

def lingersOut:List (ClockedEvent Unit ℕ):=
 [.hub (.subscribe bookKey 0),.pass 3,.hub (.unsubscribe bookKey 0),.pass 10,.hub (.fire 0),.hub (.expire 0)]

theorem lingers_full_period_book :
 ∃ s:Clocked Unit ℕ,run (Clocked.step silentWire 10) {} lingersOut=some s∧
  s.closures=[{topic:=0,time:=13,occupied:=3}]∧∀ c∈s.closures,c.occupied+10≤c.time:=by
 have hcl:∃ s:Clocked Unit ℕ,run (Clocked.step silentWire 10) {} lingersOut=some s∧
  s.closures=[{topic:=0,time:=13,occupied:=3}]:=⟨_,rfl,by decide⟩
 obtain ⟨s,hrun,hclo⟩:=hcl
 exact ⟨s,hrun,hclo,lingers_full_period (by decide) hrun⟩

def reloadedInTheGap:List (ClockedEvent Unit ℕ):=
 [.hub (.subscribe bookKey 0),.hub (.unsubscribe bookKey 0),.pass 10,.hub (.fire 0),
  .hub (.subscribe bookKey 1),.hub (.unsubscribe bookKey 1),.hub (.expire 0)]

theorem closed_after_reload :
 ∃ s:Clocked Unit ℕ,run (Clocked.step silentWire 10) {} reloadedInTheGap=some s∧
  s.closures=[{topic:=0,time:=10,occupied:=10}]:=
 ⟨_,rfl,by decide⟩

end BolterTrader.GatewayHub
