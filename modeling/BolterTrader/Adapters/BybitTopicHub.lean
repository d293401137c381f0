import BolterTrader.Foundations.Transition
import Mathlib.Data.List.Basic

/-! The hub of a private Bybit topic (`bybitPrivateTopicHub` in `bybit_bitget.go`): all
starts share one native socket. -/
namespace BolterTrader.Adapters.BybitTopicHub
open Foundations Transition List Option

/-! ## The hub -/

inductive Phase where
 | running
 | succeeded
 | failed
 | closed
 | returned
 deriving DecidableEq

structure Socket where
 owner:ℕ
 phase:Phase:=.running
 due:ℕ:=0
 closes:ℕ:=0
 deriving DecidableEq

/-- A call of `start`, with the route id that it drew. -/
structure Start where
 native:String
 id:UInt64
 socket:ℕ
 succeeded:Bool
 removed:Bool:=false
 hubClosed:Bool:=false
 deriving DecidableEq

/-- `nextId` wraps as the `uint64` of the source does. The starts stand by the number of their call, and
`calls` and `made` count the starts and the sockets. -/
structure Hub where
 ws:Option ℕ:=none
 nextId:UInt64:=0
 callbacks:List (String×UInt64):=[]
 calls:ℕ:=0
 made:ℕ:=0
 sockets:ℕ→Option Socket:=fun _=>none
 starts:ℕ→Option Start:=fun _=>none

inductive Event where
 | start (native:String)
 | handler (s:ℕ) (ok:Bool)
 | closeFailed (s:ℕ)
 | returnFailed (s:ℕ)
 | remove (call:ℕ)
 | close
 | closeTaken (s:ℕ)

namespace Hub

def setSocket (h:Hub) (s:ℕ) (k:Socket):Hub:={h with sockets:=Function.update h.sockets s (some k)}
def setStart (h:Hub) (call:ℕ) (st:Start):Hub:={h with starts:=Function.update h.starts call (some st)}

def start (h:Hub) (native:String):Hub:=
 let id:=h.nextId+1
 let h:={h with nextId:=id,callbacks:=h.callbacks++[(native,id)],calls:=h.calls+1}
 match h.ws with
 | some s=>h.setStart h.calls {native,id,socket:=s,succeeded:=true}
 | none=>
  {h with ws:=some h.made,made:=h.made+1}.setSocket h.made {owner:=h.calls}
   |>.setStart h.calls {native,id,socket:=h.made,succeeded:=false}

def dropRoute (h:Hub) (native:String) (id:UInt64):Hub:={h with callbacks:=h.callbacks.filter (· ≠ (native,id))}

def takeSocket (h:Hub):Hub:=
 match h.ws with
 | none=>h
 | some s=>
  {h with ws:=none,sockets:=Function.update h.sockets s ((h.sockets s).map fun k=>{k with due:=k.due+1})}

def remove (h:Hub) (call:ℕ) (st:Start):Hub:=
 let h:=(h.dropRoute st.native st.id).setStart call {st with removed:=true}
 if h.callbacks=[] then h.takeSocket else h

def close (h:Hub):Hub:=
 {h.takeSocket with
   callbacks:=[]
   starts:=fun call=>(h.starts call).map fun st=>{st with hubClosed:=true}}

def returnFailed (h:Hub) (s:ℕ) (k:Socket) (st:Start):Hub:=
 let h:=(h.setSocket s {k with phase:=.returned}).dropRoute st.native st.id
 if h.ws=some s then {h with ws:=none} else h

end Hub

def step (h:Hub):Event→Option Hub
 | .start native=>some (h.start native)
 | .handler s ok=>
  (h.sockets s).bind fun k=>(h.starts k.owner).bind fun st=>
   if k.phase=.running then
    some <| if ok then (h.setSocket s {k with phase:=.succeeded}).setStart k.owner {st with succeeded:=true}
     else h.setSocket s {k with phase:=.failed}
   else none
 | .closeFailed s=>
  (h.sockets s).bind fun k=>
   if k.phase=.failed then some (h.setSocket s {k with phase:=.closed,closes:=k.closes+1}) else none
 | .returnFailed s=>
  (h.sockets s).bind fun k=>(h.starts k.owner).bind fun st=>
   if k.phase=.closed then some (h.returnFailed s k st) else none
 | .remove call=>(h.starts call).bind fun st=>if st.succeeded then some (h.remove call st) else none
 | .close=>some h.close
 | .closeTaken s=>
  (h.sockets s).bind fun k=>
   if 0<k.due then some (h.setSocket s {k with due:=k.due-1,closes:=k.closes+1}) else none

/-! ## What a step can do -/

inductive Moves (h:Hub):Event→Hub→Prop where
 | shared {native:String} {s:ℕ} (hws:h.ws=some s):
  Moves h (.start native)
   {h with
     nextId:=h.nextId+1
     callbacks:=h.callbacks++[(native,h.nextId+1)]
     calls:=h.calls+1
     starts:=Function.update h.starts (h.calls+1) (some {native,id:=h.nextId+1,socket:=s,succeeded:=true})}
 | made {native:String} (hws:h.ws=none):
  Moves h (.start native)
   { nextId:=h.nextId+1
     callbacks:=h.callbacks++[(native,h.nextId+1)]
     calls:=h.calls+1
     ws:=some h.made
     made:=h.made+1
     sockets:=Function.update h.sockets h.made (some {owner:=h.calls+1})
     starts:=Function.update h.starts (h.calls+1)
      (some {native,id:=h.nextId+1,socket:=h.made,succeeded:=false})}
 | succeeded {s:ℕ} {k:Socket} {st:Start} (hk:h.sockets s=some k) (hst:h.starts k.owner=some st)
  (hphase:k.phase=.running):
  Moves h (.handler s true)
   ((h.setSocket s {k with phase:=.succeeded}).setStart k.owner {st with succeeded:=true})
 | failed {s:ℕ} {k:Socket} (hk:h.sockets s=some k) (hphase:k.phase=.running):
  Moves h (.handler s false) (h.setSocket s {k with phase:=.failed})
 | closedFailed {s:ℕ} {k:Socket} (hk:h.sockets s=some k) (hphase:k.phase=.failed):
  Moves h (.closeFailed s) (h.setSocket s {k with phase:=.closed,closes:=k.closes+1})
 | returned {s:ℕ} {k:Socket} {st:Start} (hk:h.sockets s=some k) (hst:h.starts k.owner=some st)
  (hphase:k.phase=.closed):Moves h (.returnFailed s) (h.returnFailed s k st)
 | removed {id:ℕ} {st:Start} (hst:h.starts id=some st) (hsucceeded:st.succeeded=true):
  Moves h (.remove id) (h.remove id st)
 | closedHub : Moves h .close h.close
 | closedTaken {s:ℕ} {k:Socket} (hk:h.sockets s=some k) (hdue:0<k.due):
  Moves h (.closeTaken s) (h.setSocket s {k with due:=k.due-1,closes:=k.closes+1})

theorem moves_of_step {h next:Hub} {event:Event} (hstep:step h event=some next):Moves h event next:=by
 cases event with
 | start=>
  cases hstep
  unfold Hub.start
  dsimp only
  split
  next s hws=>exact .shared hws
  next hws=>exact .made hws
 | handler s ok=>
  obtain ⟨k,hk,hstep⟩:=bind_eq_some_iff.mp hstep
  obtain ⟨st,hst,hstep⟩:=bind_eq_some_iff.mp hstep
  split at hstep
  · next hph=>
    cases hstep
    cases ok with
    | true=>exact .succeeded hk hst hph
    | false=>exact .failed hk hph
  · cases hstep
 | closeFailed=>
  obtain ⟨k,hk,hstep⟩:=bind_eq_some_iff.mp hstep
  split at hstep
  · next hph=>
    cases hstep
    exact .closedFailed hk hph
  · cases hstep
 | returnFailed=>
  obtain ⟨k,hk,hstep⟩:=bind_eq_some_iff.mp hstep
  obtain ⟨st,hst,hstep⟩:=bind_eq_some_iff.mp hstep
  split at hstep
  · next hph=>
    cases hstep
    exact .returned hk hst hph
  · cases hstep
 | remove=>
  obtain ⟨st,hst,hstep⟩:=bind_eq_some_iff.mp hstep
  split at hstep
  · next hsuc=>
    cases hstep
    exact .removed hst hsuc
  · cases hstep
 | close=>
  cases hstep
  exact .closedHub
 | closeTaken=>
  obtain ⟨k,hk,hstep⟩:=bind_eq_some_iff.mp hstep
  split at hstep
  · next hdue=>
    cases hstep
    exact .closedTaken hk hdue
  · cases hstep

/-! ## What the hub owes its starts -/

def Start.Live (st:Start):Prop:=st.succeeded=true∧st.removed=false∧st.hubClosed=false
def Socket.closings (k:Socket):ℕ:=k.closes+k.due+if k.phase=.failed then 1 else 0

structure Sound (h:Hub):Prop where
 live:∀ id st,h.starts id=some st→ st.Live →
  ∃ k,h.sockets st.socket=some k∧k.phase=.succeeded∧k.closings=0
 once:∀ s k,h.sockets s=some k→ k.closings≤1

def Event.closes:Event→Option ℕ
 | .closeFailed s | .closeTaken s=>some s
 | _=>none

/-- A step keeps the hub sound and closes no socket under a live subscription. -/
structure Serves (h:Hub) (event:Event):Prop where
 sound:∀ next,step h event=some next→Sound next
 late:∀ s id st,event.closes=some s→ step h event≠none→ h.starts id=some st→ st.Live→ st.socket≠s

def Calm (h:Hub):Event→Prop
 | .start _=>∀ s k,h.ws=some s→ h.sockets s=some k→ k.phase=.succeeded
 | .handler s false=>∀ k,h.sockets s=some k→ k.phase=.running→ h.ws=some s
 | .close=>∀ s k,h.ws=some s→ h.sockets s=some k→ k.phase=.running∨k.phase=.succeeded
 | _=>True

/-! ## The invariant -/

def Socket.InFlight (k:Socket):Prop:=k.phase=.running∨k.phase=.failed∨k.phase=.closed

structure OwnedBy (h:Hub) (s:ℕ) (k:Socket) (st:Start):Prop where
 start:h.starts k.owner=some st
 socket:st.socket=s
 pending:st.succeeded=false
 route:h.ws=some s→(st.native,st.id)∈h.callbacks
 inHub:st.hubClosed=false→ h.ws=some s

structure Inv (h:Hub):Prop where
 drawn:h.nextId=UInt64.ofNat h.calls
 numbered:∀ {id st},h.starts id=some st→ st.id=UInt64.ofNat id
 noStart:∀ {id},h.calls< id→ h.starts id=none
 noSocket:∀ {s},h.made≤ s→ h.sockets s=none
 present:∀ {s},h.ws=some s → ∃ k,h.sockets s=some k
 current:∀ {s k},h.sockets s=some k→ h.ws=some s →
  k.due=0∧k.closes=(if k.phase=.closed then 1 else 0)∧k.phase≠.returned
 taken:∀ {s k},h.sockets s=some k→ h.ws≠some s → k.closes+k.due=1∧k.phase≠.failed∧k.phase≠.closed
 owned:∀ {s k},h.sockets s=some k→ k.InFlight → ∃ st,OwnedBy h s k st
 live:∀ {id st},h.starts id=some st→ st.Live→ h.ws=some st.socket∧(st.native,st.id)∈h.callbacks∧
  ∃ k,h.sockets st.socket=some k∧k.phase=.succeeded

section
variable {h next:Hub} {event:Event} {s:ℕ} {k:Socket}

/-- Two starts have different routes, as long as the counter has not wrapped. -/
theorem Inv.id_ne (h' : Inv h) (hcalls : h.calls < UInt64.size) {a b : ℕ} {st st' : Start}
    (hst : h.starts a = some st) (hst' : h.starts b = some st') (hne : a ≠ b) : st.id ≠ st'.id := by
  have hle : ∀ {c : ℕ} {st : Start}, h.starts c = some st → c < UInt64.size := by
    intro c st hc
    by_contra hlt
    cases hc.symm.trans (h'.noStart (by omega))
  rw [h'.numbered hst, h'.numbered hst']
  grind [UInt64.toNat_ofNat_of_lt']

theorem Inv.closings_le (h':Inv h) (hk:h.sockets s=some k):k.closings≤1:=by
 unfold Socket.closings
 by_cases hws:h.ws=some s
 · obtain ⟨hdue,hclo,-⟩:=h'.current hk hws
   grind
 · obtain ⟨hsum,hf,-⟩:=h'.taken hk hws
   simp[hf,hsum]

theorem Inv.sound (h':Inv h):Sound h where
 live id st hst hlive:=by
  obtain ⟨hws,-,k,hk,hph⟩:=h'.live hst hlive
  obtain ⟨hdue,hclo,-⟩:=h'.current hk hws
  refine ⟨k,hk,hph,?_⟩
  simp[Socket.closings,hdue,hclo,hph]
 once s k hk:=h'.closings_le hk

theorem Inv.late (h':Inv h) (hmv:Moves h event next) (hclo:event.closes=some s) {id:ℕ} {st:Start}
 (hst:h.starts id=some st) (hlive:st.Live):st.socket≠s:=by
 rintro rfl
 obtain ⟨hws,-,k,hk,hph⟩:=h'.live hst hlive
 cases hmv with
 | closedFailed hk' hf=>
  cases hclo
  grind
 | closedTaken hk' hdue=>
  cases hclo
  cases hk.symm.trans hk'
  have hzero:=(h'.current hk hws).1
  omega
 | _=>cases hclo

theorem Inv.setSocket {new:Socket} (h':Inv h) (hk:h.sockets s=some k) (howne:new.owner=k.owner)
  (hcurr:h.ws=some s→ new.due=0∧new.closes=(if new.phase=.closed then 1 else 0)∧new.phase≠.returned)
  (htak:h.ws≠some s→ new.closes+new.due=1∧new.phase≠.failed∧new.phase≠.closed)
  (hfl:new.InFlight→ k.InFlight) (hsuc:k.phase=.succeeded→ new.phase=.succeeded):
  Inv (h.setSocket s new) where
 drawn:=h'.drawn
 numbered hst:=h'.numbered hst
 noStart hid:=h'.noStart hid
 noSocket:=by
  intro t ht
  have hne:t≠s:=by
   rintro rfl
   rw[h'.noSocket ht] at hk
   cases hk
  exact (Function.update_of_ne hne _ h.sockets).trans (h'.noSocket ht)
 present:=by
  intro t hws
  obtain ⟨l,hl⟩:=h'.present hws
  by_cases hts:t=s
  · exact ⟨new,by rw[hts]; exact Function.update_self s _ h.sockets⟩
  · exact ⟨l,(Function.update_of_ne hts _ h.sockets).trans hl⟩
 current:=by
  intro t l hl hws
  by_cases hts:t=s
  · subst hts
    cases hl.symm.trans (Function.update_self t _ h.sockets)
    exact hcurr hws
  · exact h'.current ((Function.update_of_ne hts _ h.sockets).symm.trans hl) hws
 taken:=by
  intro t l hl hws
  by_cases hts:t=s
  · subst hts
    cases hl.symm.trans (Function.update_self t _ h.sockets)
    exact htak hws
  · exact h'.taken ((Function.update_of_ne hts _ h.sockets).symm.trans hl) hws
 owned:=by
  intro t l hl hinF
  by_cases hts:t=s
  · subst hts
    cases hl.symm.trans (Function.update_self t _ h.sockets)
    obtain ⟨st,how⟩:=h'.owned hk (hfl hinF)
    refine ⟨st,?_,how.socket,how.pending,how.route,how.inHub⟩
    rw[howne]
    exact how.start
  · obtain ⟨st,how⟩:=h'.owned ((Function.update_of_ne hts _ h.sockets).symm.trans hl) hinF
    exact ⟨st,how.start,how.socket,how.pending,how.route,how.inHub⟩
 live:=by
  intro id st hst hlive
  obtain ⟨hws,hrt,l,hl,hph⟩:=h'.live hst hlive
  refine ⟨hws,hrt,?_⟩
  by_cases hts:st.socket=s
  · rw[hts] at hl
    cases hk.symm.trans hl
    exact ⟨new,by rw[hts]; exact Function.update_self s _ h.sockets,hsuc hph⟩
  · exact ⟨l,(Function.update_of_ne hts _ h.sockets).trans hl,hph⟩

theorem Inv.setStart {id:ℕ} {st new:Start} (h':Inv h) (hst:h.starts id=some st) (hid:new.id=st.id)
  (howne:∀ {t l},h.sockets t=some l→ l.InFlight→ l.owner≠id)
  (hlive:new.Live→ h.ws=some new.socket∧(new.native,new.id)∈h.callbacks∧
   ∃ k,h.sockets new.socket=some k∧k.phase=.succeeded):Inv (h.setStart id new) where
 drawn:=h'.drawn
 numbered:=by
  intro other found hfound
  by_cases hother:other=id
  · subst hother
    cases hfound.symm.trans (Function.update_self other _ h.starts)
    rw[hid]
    exact h'.numbered hst
  · exact h'.numbered ((Function.update_of_ne hother _ h.starts).symm.trans hfound)
 noStart:=by
  intro other hoth
  have hne:other≠id:=by
   rintro rfl
   rw[h'.noStart hoth] at hst
   cases hst
  exact (Function.update_of_ne hne _ h.starts).trans (h'.noStart hoth)
 noSocket ht:=h'.noSocket ht
 present hws:=h'.present hws
 current hl hws:=h'.current hl hws
 taken hl hws:=h'.taken hl hws
 owned:=by
  intro t l hl hinF
  obtain ⟨owner,how⟩:=h'.owned hl hinF
  have hstrt:=(Function.update_of_ne (howne hl hinF) (some new) h.starts).trans how.start
  exact ⟨owner,hstrt,how.socket,how.pending,how.route,how.inHub⟩
 live:=by
  intro other found hfd hfoLi
  by_cases hoth:other=id
  · subst hoth
    cases hfd.symm.trans (Function.update_self other _ h.starts)
    exact hlive hfoLi
  · exact h'.live ((Function.update_of_ne hoth _ h.starts).symm.trans hfd) hfoLi

theorem Inv.dropRoute {id:ℕ} {native:String} {st:Start} (h':Inv h) (hcalls:h.calls<UInt64.size)
  (hst:h.starts id=some st) (hlive:¬st.Live)
  (howne:∀ {t l},h.sockets t=some l→ l.InFlight→ l.owner≠id):Inv (h.dropRoute native st.id) where
 drawn:=h'.drawn
 numbered hst:=h'.numbered hst
 noStart hid:=h'.noStart hid
 noSocket ht:=h'.noSocket ht
 present hws:=h'.present hws
 current hl hws:=h'.current hl hws
 taken hl hws:=h'.taken hl hws
 owned:=by
  intro t l hl hinF
  obtain ⟨found,how⟩:=h'.owned hl hinF
  refine ⟨found,how.start,how.socket,how.pending,fun hws=>?_,how.inHub⟩
  have hne:=h'.id_ne hcalls how.start hst (howne hl hinF)
  exact mem_filter.mpr ⟨how.route hws,by simp[hne]⟩
 live:=by
  intro other found hfd hfoLi
  obtain ⟨hws,hrt,hsk⟩:=h'.live hfd hfoLi
  have hne:other≠id:=by
   rintro rfl
   cases hst.symm.trans hfd
   exact hlive hfoLi
  exact ⟨hws,mem_filter.mpr ⟨hrt,by simp[h'.id_ne hcalls hfd hst hne]⟩,hsk⟩

theorem Inv.of_none (hws:h.ws=none) (hdrawn:h.nextId=UInt64.ofNat h.calls)
  (hnum:∀ {id st},h.starts id=some st→ st.id=UInt64.ofNat id) (hstrt:∀ {id},h.calls< id→ h.starts id=none)
  (hsk:∀ {t},h.made≤t→ h.sockets t=none)
  (htak:∀ {t l},h.sockets t=some l→ l.closes+l.due=1∧l.phase≠.failed∧l.phase≠.closed)
  (how:∀ {t l},h.sockets t=some l→ l.InFlight →
   ∃ st,h.starts l.owner=some st∧st.socket=t∧st.succeeded=false∧st.hubClosed=true)
  (hlive:∀ {id st},h.starts id=some st → ¬st.Live):Inv h where
 drawn:=hdrawn
 numbered:=hnum
 noStart:=hstrt
 noSocket:=hsk
 present h':=by cases hws.symm.trans h'
 current _ h':=by cases hws.symm.trans h'
 taken hl _:=htak hl
 owned hl hinF:=by
  obtain ⟨st,hst,hsk,hpd,hcl⟩:=how hl hinF
  refine ⟨st,hst,hsk,hpd,fun h'=>?_,fun hopen=>?_⟩
  · cases hws.symm.trans h'
  · cases hcl.symm.trans hopen
 live hst hstLi:=absurd hstLi (hlive hst)

theorem OwnedBy.hubClosed {st:Start} (how:OwnedBy h s k st) (hws:h.ws≠some s):st.hubClosed=true:=by
 by_contra hopen
 exact hws (how.inHub (by simpa using hopen))

theorem Inv.takeSocket (h':Inv h)
 (hph:∀ {s k},h.ws=some s→ h.sockets s=some k→ k.phase=.running∨k.phase=.succeeded) {t:ℕ}
 {l:Socket} (hl:h.takeSocket.sockets t=some l):
 (l.closes+l.due=1∧l.phase≠.failed∧l.phase≠.closed)∧
  ∃ k,h.sockets t=some k∧l.owner=k.owner∧l.phase=k.phase:=by
 unfold Hub.takeSocket at hl
 split at hl
 next hws=>
  have hne:h.ws≠some t:=by simp[hws]
  exact ⟨h'.taken hl hne,l,hl,rfl,rfl⟩
 next s hws=>
  dsimp only at hl
  by_cases hts:t=s
  · subst hts
    obtain ⟨k,hk⟩:=h'.present hws
    have hnew:some {k with due:=k.due+1}=some l:=by
     grind
    cases hnew
    obtain ⟨hdue,hclo,-⟩:=h'.current hk hws
    grind
  · have hold:h.sockets t=some l:=(Function.update_of_ne hts _ h.sockets).symm.trans hl
    have hne:h.ws≠some t:=by
     grind
    exact ⟨h'.taken hold hne,l,hold,rfl,rfl⟩

theorem takeSocket_ws (h:Hub):h.takeSocket.ws=none:=by
 grind [Hub.takeSocket]

theorem takeSocket_sockets_none (hk:h.sockets s=none):h.takeSocket.sockets s=none:=by
 unfold Hub.takeSocket
 split
 next=>exact hk
 grind

/-! ## One step -/

theorem Inv.next_drawn (h' : Inv h) : h.nextId + 1 = UInt64.ofNat (h.calls + 1) := by
  rw [h'.drawn, UInt64.ofNat_add]
  rfl

theorem Inv.numbered_next (h' : Inv h) {new : Start} (hnew : new.id = h.nextId + 1) {id : ℕ} {st : Start}
    (hst : Function.update h.starts (h.calls + 1) (some new) id = some st) : st.id = UInt64.ofNat id := by
  by_cases hid : id = h.calls + 1
  · subst hid
    cases hst.symm.trans (Function.update_self (h.calls + 1) _ h.starts)
    exact hnew.trans h'.next_drawn
  · exact h'.numbered ((Function.update_of_ne hid _ h.starts).symm.trans hst)

theorem Inv.owner_ne {st:Start} (h':Inv h) (how:OwnedBy h s k st):k.owner≠h.calls+1:=by
 intro heq
 have hstrt:=how.start
 rw[heq,h'.noStart (Nat.lt_succ_self _)] at hstrt
 cases hstrt

theorem Inv.shared {native:String} (h':Inv h) (hws:h.ws=some s) (hk:h.sockets s=some k)
  (hph:k.phase=.succeeded):
  Inv {h with
   nextId:=h.nextId+1
   callbacks:=h.callbacks++[(native,h.nextId+1)]
   calls:=h.calls+1
   starts:=Function.update h.starts (h.calls+1)
    (some {native,id:=h.nextId+1,socket:=s,succeeded:=true})} where
 drawn:=h'.next_drawn
 numbered hst:=h'.numbered_next rfl hst
 noStart:=by
  intro id hid
  dsimp only at hid
  have hne:id≠h.calls+1:=by omega
  exact (Function.update_of_ne hne _ h.starts).trans (h'.noStart (by omega))
 noSocket ht:=h'.noSocket ht
 present hws:=h'.present hws
 current hl hws:=h'.current hl hws
 taken hl hws:=h'.taken hl hws
 owned:=by
  intro t l hl hinF
  obtain ⟨st,how⟩:=h'.owned hl hinF
  exact ⟨st,(Function.update_of_ne (h'.owner_ne how) _ h.starts).trans how.start,how.socket,how.pending,
   fun hws=>mem_append_left _ (how.route hws),how.inHub⟩
 live:=by
  intro id st hst hlive
  by_cases hid:id=h.calls+1
  · grind
  · obtain ⟨hws,hrt,hsk⟩:=h'.live ((Function.update_of_ne hid _ h.starts).symm.trans hst) hlive
    grind

theorem Inv.made {native:String} (h':Inv h) (hws:h.ws=none):
  Inv { nextId:=h.nextId+1
        callbacks:=h.callbacks++[(native,h.nextId+1)]
        calls:=h.calls+1
        ws:=some h.made
        made:=h.made+1
        sockets:=Function.update h.sockets h.made (some {owner:=h.calls+1})
        starts:=Function.update h.starts (h.calls+1)
         (some {native,id:=h.nextId+1,socket:=h.made,succeeded:=false})} where
 drawn:=h'.next_drawn
 numbered hst:=h'.numbered_next rfl hst
 noStart:=by
  intro id hid
  dsimp only at hid
  have hne:id≠h.calls+1:=by omega
  exact (Function.update_of_ne hne _ h.starts).trans (h'.noStart (by omega))
 noSocket:=by
  intro t ht
  dsimp only at ht
  have hne:t≠h.made:=by omega
  exact (Function.update_of_ne hne _ h.sockets).trans (h'.noSocket (by omega))
 present:=by
  intro t ht
  cases ht
  exact ⟨_,Function.update_self h.made _ h.sockets⟩
 current:=by
  intro t l hl ht
  cases ht
  cases hl.symm.trans (Function.update_self h.made _ h.sockets)
  simp
 taken:=by
  intro t l hl ht
  have hne:t≠h.made:=fun heq=>ht (congrArg some heq.symm)
  exact h'.taken ((Function.update_of_ne hne _ h.sockets).symm.trans hl) (by simp[hws])
 owned:=by
  intro t l hl hinF
  by_cases ht:t=h.made
  · subst ht
    cases hl.symm.trans (Function.update_self h.made _ h.sockets)
    exact ⟨_,Function.update_self (h.calls+1) _ h.starts,rfl,rfl,fun _=>by simp,fun _=>rfl⟩
  · obtain ⟨st,how⟩:=h'.owned ((Function.update_of_ne ht _ h.sockets).symm.trans hl) hinF
    have hcl:=how.hubClosed (by simp[hws])
    refine ⟨st,(Function.update_of_ne (h'.owner_ne how) _ h.starts).trans how.start,how.socket,
     how.pending,fun hcurr=>?_,fun hopen=>?_⟩
    all_goals grind
 live:=by
  intro id st hst hlive
  by_cases hid:id=h.calls+1
  · subst hid
    cases hst.symm.trans (Function.update_self (h.calls+1) _ h.starts)
    cases hlive.1
  · obtain ⟨hcurr,-⟩:=h'.live ((Function.update_of_ne hid _ h.starts).symm.trans hst) hlive
    cases hws.symm.trans hcurr

theorem Inv.succeeded {st:Start} (h':Inv h) (hk:h.sockets s=some k) (hst:h.starts k.owner=some st)
 (hph:k.phase=.running):
 Inv ((h.setSocket s {k with phase:=.succeeded}).setStart k.owner {st with succeeded:=true}):=by
 obtain ⟨owner,how⟩:=h'.owned hk (.inl hph)
 cases hst.symm.trans how.start
 have hsk:Inv (h.setSocket s {k with phase:=.succeeded}):=by
  refine h'.setSocket hk rfl (fun hws=>?_) (fun hws=>?_) (fun hinF=>?_) fun _=>rfl
  · obtain ⟨hdue,hclo,-⟩:=h'.current hk hws
    simp[hdue,hclo,hph]
  · have hsum:=(h'.taken hk hws).1
    simp[hsum]
  · simp[Socket.InFlight] at hinF
 refine hsk.setStart how.start rfl ?_ ?_
 · -- a start owns one socket only
   intro t l hl hinF heq
   have hts:t≠s:=by
    rintro rfl
    cases hl.symm.trans (Function.update_self t _ h.sockets)
    simp[Socket.InFlight] at hinF
   obtain ⟨other,hoth⟩:=h'.owned ((Function.update_of_ne hts _ h.sockets).symm.trans hl) hinF
   have hsame:=hoth.start
   rw[heq,how.start] at hsame
   cases hsame
   exact hts (hoth.socket.symm.trans how.socket)
 · rintro ⟨-,-,hopen⟩
   have hws:=how.inHub hopen
   have hnew:(h.setSocket s {k with phase:=.succeeded}).sockets s=some {k with phase:=.succeeded}:=
    Function.update_self s _ h.sockets
   refine ⟨?_,how.route hws,{k with phase:=.succeeded},?_,rfl⟩
   · rw[how.socket]
     exact hws
   · rw[how.socket]
     exact hnew

theorem Inv.returned (h':Inv h) (hk:h.sockets s=some k) (hph:k.phase=.closed) (st:Start):
 Inv (h.returnFailed s k st):=by
 have hws:h.ws=some s:=by
  by_contra hne
  exact (h'.taken hk hne).2.2 hph
 obtain ⟨hdue,hclo,-⟩:=h'.current hk hws
 have hoth {t:ℕ} (hts:t≠s):h.ws≠some t:=by
  grind
 have hhub:h.returnFailed s k st =
  {(h.setSocket s {k with phase:=.returned}).dropRoute st.native st.id with ws:=none}:=if_pos hws
 rw[hhub]
 refine Inv.of_none rfl h'.drawn (fun hst=>h'.numbered hst) (fun hid=>h'.noStart hid) ?_ ?_ ?_ ?_
 · intro t ht
   have hts:t≠s:=by
    rintro rfl
    rw[h'.noSocket ht] at hk
    cases hk
   exact (Function.update_of_ne hts _ h.sockets).trans (h'.noSocket ht)
 · intro t l hl
   by_cases hts:t=s
   · subst hts
     cases hl.symm.trans (Function.update_self t _ h.sockets)
     simp[hdue,hclo,hph]
   · exact h'.taken ((Function.update_of_ne hts _ h.sockets).symm.trans hl) (hoth hts)
 · intro t l hl hinF
   by_cases hts:t=s
   · subst hts
     cases hl.symm.trans (Function.update_self t _ h.sockets)
     simp[Socket.InFlight] at hinF
   · obtain ⟨owner,how⟩:=h'.owned ((Function.update_of_ne hts _ h.sockets).symm.trans hl) hinF
     exact ⟨owner,how.start,how.socket,how.pending,how.hubClosed (hoth hts)⟩
 · intro id found hfd hlive
   obtain ⟨hcurr,-,l,hl,hsuc⟩:=h'.live hfd hlive
   grind

theorem Inv.succeeded_owner_ne {id t:ℕ} {st:Start} {l:Socket} (h':Inv h) (hst:h.starts id=some st)
 (hsuc:st.succeeded=true) (hl:h.sockets t=some l) (hinF:l.InFlight):l.owner≠id:=by
 rintro rfl
 obtain ⟨owner,how⟩:=h'.owned hl hinF
 cases hst.symm.trans how.start
 cases hsuc.symm.trans how.pending

theorem takeSocket_rest (h:Hub):
 h.takeSocket.starts=h.starts∧h.takeSocket.nextId=h.nextId∧h.takeSocket.calls=h.calls∧
  h.takeSocket.made=h.made:=by
 grind [Hub.takeSocket]

theorem Inv.takeEmpty (h':Inv h) (hnil:h.callbacks=[]):Inv h.takeSocket:=by
 obtain ⟨hsta,hneId,hcal,hmade⟩:=takeSocket_rest h
 have hlan {t:ℕ} {l:Socket} (hws:h.ws=some t) (hl:h.sockets t=some l):¬l.InFlight:=by
  intro hinF
  obtain ⟨st,how⟩:=h'.owned hl hinF
  have hrt:=how.route hws
  rw[hnil] at hrt
  cases hrt
 have hph {t:ℕ} {l:Socket} (hws:h.ws=some t) (hl:h.sockets t=some l):
   l.phase=.running∨l.phase=.succeeded:=by
  have hnot:=hlan hws hl
  have hret:=(h'.current hl hws).2.2
  unfold Socket.InFlight at hnot
  cases hp : l.phase<;>simp_all
 refine Inv.of_none (takeSocket_ws h) (by rw[hneId,hcal]; exact h'.drawn) (by rw[hsta]; exact h'.numbered)
  ?_ ?_ (fun hl=>(h'.takeSocket hph hl).1) ?_ ?_
 · rw[hsta,hcal]
   exact h'.noStart
 · rw[hmade]
   exact fun ht=>takeSocket_sockets_none (h'.noSocket ht)
 · intro t l hl hinF
   obtain ⟨-,k,hk,howne,hsame⟩:=h'.takeSocket hph hl
   have hinF':k.InFlight:=by
    grind [Socket.InFlight]
   obtain ⟨st,how⟩:=h'.owned hk hinF'
   have hws:h.ws≠some t:=fun hws=>hlan hws hk hinF'
   refine ⟨st,?_,how.socket,how.pending,how.hubClosed hws⟩
   rw[hsta,howne]
   exact how.start
 · intro id st hst hlive
   rw[hsta] at hst
   have hrt:=(h'.live hst hlive).2.1
   rw[hnil] at hrt
   cases hrt

theorem Inv.removed {id:ℕ} {st:Start} (h':Inv h) (hcalls:h.calls<UInt64.size) (hst:h.starts id=some st)
 (hsuc:st.succeeded=true):
 Inv (h.remove id st):=by
 have hstrt:Inv (h.setStart id {st with removed:=true}):=
  h'.setStart hst rfl (h'.succeeded_owner_ne hst hsuc) fun hlive=>by cases hlive.2.1
 have hdrop:Inv ((h.dropRoute st.native st.id).setStart id {st with removed:=true}):=
  @Inv.dropRoute _ id st.native {st with removed:=true} hstrt hcalls (Function.update_self id _ h.starts)
   (fun hlive=>by cases hlive.2.1) (h'.succeeded_owner_ne hst hsuc)
 unfold Hub.remove
 dsimp only
 split
 next hnil=>exact hdrop.takeEmpty hnil
 next=>exact hdrop

theorem Inv.closedHub (h':Inv h)
 (hph:∀ {s k},h.ws=some s→ h.sockets s=some k→ k.phase=.running∨k.phase=.succeeded):
 Inv h.close:=by
 obtain ⟨-,hneId,hcal,hmade⟩:=takeSocket_rest h
 refine Inv.of_none (takeSocket_ws h) (by rw[Hub.close,hneId,hcal]; exact h'.drawn) ?_ ?_ ?_
  (fun hl=>(h'.takeSocket hph hl).1) ?_ ?_
 · intro id st hst
   obtain ⟨old,hold,rfl⟩:=map_eq_some_iff.mp hst
   exact @Inv.numbered _ h' id old hold
 · intro id hid
   have hnone:=h'.noStart (hcal▸hid)
   simp[Hub.close,hnone]
 · intro t ht
   exact takeSocket_sockets_none (h'.noSocket (hmade▸ht))
 · intro t l hl hinF
   obtain ⟨-,k,hk,howne,hsame⟩:=h'.takeSocket hph hl
   have hinF':k.InFlight:=by
    grind [Socket.InFlight]
   obtain ⟨st,how⟩:=h'.owned hk hinF'
   refine ⟨{st with hubClosed:=true},?_,how.socket,how.pending,rfl⟩
   have hstrt:=how.start
   simp[Hub.close,howne,hstrt]
 · intro id st hst hlive
   obtain ⟨old,-,hnew⟩:=map_eq_some_iff.mp hst
   rw[←hnew] at hlive
   cases hlive.2.2

theorem Inv.moves (h':Inv h) (hcalls:h.calls<UInt64.size) (hmv:Moves h event next) (hcalm:Calm h event):
 Inv next:=by
 cases hmv with
 | shared hws=>
  obtain ⟨k,hk⟩:=h'.present hws
  exact h'.shared hws hk (hcalm _ k hws hk)
 | made hws=>exact h'.made hws
 | succeeded hk hst hph=>exact h'.succeeded hk hst hph
 | @failed s k hk hph=>
  have hws:=hcalm k hk hph
  refine h'.setSocket hk rfl (fun _=>?_) (fun hne=>absurd hws hne) (fun _=>.inl hph) fun hsuc=>?_
  · obtain ⟨hdue,hclo,-⟩:=h'.current hk hws
    simp[hdue,hclo,hph]
  · cases hph.symm.trans hsuc
 | @closedFailed s k hk hph=>
  refine h'.setSocket hk rfl (fun hws=>?_) (fun hne=>?_) (fun _=>.inr (.inl hph)) fun hsuc=>?_
  · obtain ⟨hdue,hclo,-⟩:=h'.current hk hws
    simp[hdue,hclo,hph]
  · exact absurd hph (h'.taken hk hne).2.1
  · cases hph.symm.trans hsuc
 | @returned s k st hk hst hph=>exact h'.returned hk hph st
 | removed hst hsuc=>exact h'.removed hcalls hst hsuc
 | closedHub=>exact h'.closedHub (hcalm _ _)
 | @closedTaken s k hk hdue=>
  refine h'.setSocket hk rfl (fun hws=>?_) (fun hne=>?_) id id
  · have hzero:=(h'.current hk hws).1
    omega
  · obtain ⟨hsum,hpha⟩:=h'.taken hk hne
    grind

theorem Inv.calm_of_sound (h':Inv h) (hser:∀ next,step h event=some next→Sound next):Calm h event:=by
 cases event with
 | start native=>
  intro s k hws hk
  have hstrt:step h (.start native)=some {h with
    nextId:=h.nextId+1
    callbacks:=h.callbacks++[(native,h.nextId+1)]
    calls:=h.calls+1
    starts:=Function.update h.starts (h.calls+1)
     (some {native,id:=h.nextId+1,socket:=s,succeeded:=true})}:=by
   simp[step,Hub.start,Hub.setStart,hws]
  obtain ⟨l,hl,hph,-⟩:=(hser _ hstrt).live (h.calls+1) _ (Function.update_self _ _ h.starts) ⟨rfl,rfl,rfl⟩
  grind
 | handler s ok=>
  cases ok with
  | true=>trivial
  | false=>
   intro k hk hph
   by_contra hne
   obtain ⟨st,how⟩:=h'.owned hk (.inl hph)
   have hfail:step h (.handler s false)=some (h.setSocket s {k with phase:=.failed}):=by
    simp[step,hk,how.start,hph]
   have honce:=(hser _ hfail).once s _ (Function.update_self s _ h.sockets)
   have hsum:=(h'.taken hk hne).1
   simp[Socket.closings,hsum] at honce
 | close=>
  intro s k hws hk
  by_contra hnot
  rw[not_or] at hnot
  obtain ⟨hdue,hclo,hret⟩:=h'.current hk hws
  have hsk:h.close.sockets s=some {k with due:=k.due+1}:=by
   simp[Hub.close,Hub.takeSocket,hws,hk]
  have honce:=(hser _ rfl).once s _ hsk
  unfold Socket.closings at honce
  cases hp : k.phase<;>simp_all
 | _=>trivial

theorem Inv.serves_iff (h':Inv h) (hcalls:h.calls<UInt64.size):Serves h event ↔ Calm h event:=by
 constructor
 · intro hser
   exact h'.calm_of_sound hser.sound
 · intro hcalm
   refine ⟨fun next hstep=>(h'.moves hcalls (moves_of_step hstep) hcalm).sound,?_⟩
   intro s id st hclo hstep hst hlive
   obtain ⟨next,hnext⟩:=ne_none_iff_exists'.mp hstep
   exact h'.late (moves_of_step hnext) hclo hst hlive

end

theorem inv_empty : Inv {} := Inv.of_none rfl rfl nofun (fun _ => rfl) (fun _ => rfl) nofun nofun nofun

def Event.isStart : Event → Bool
  | .start _ => true
  | _ => false

theorem calls_of_moves {h next : Hub} {event : Event} (hmoves : Moves h event next) :
    next.calls = h.calls + if event.isStart then 1 else 0 := by
  cases hmoves with
  | shared | made => rfl
  | returned =>
    unfold Hub.returnFailed
    dsimp only
    split <;> rfl
  | removed =>
    unfold Hub.remove
    dsimp only
    split
    · exact (takeSocket_rest _).2.2.1
    · rfl
  | closedHub => exact (takeSocket_rest h).2.2.1
  | _ => rfl

theorem calls_along {h : Hub} {events : List Event}
    (hstarts : h.calls + events.countP Event.isStart < UInt64.size) :
    Along step (fun h _ => h.calls < UInt64.size) h events := by
  induction events generalizing h with
  | nil => trivial
  | cons event rest ih =>
    rw [countP_cons] at hstarts
    refine ⟨by omega, fun next hstep => ih ?_⟩
    rw [calls_of_moves (moves_of_step hstep)]
    omega

/-- In a run of fewer than `2 ^ 64` starts the hub keeps its promise after every event exactly if every
event is calm. -/
theorem serves_along_iff_calm (events : List Event) (hstarts : events.countP Event.isStart < UInt64.size) :
    Along step Serves {} events ↔ Along step Calm {} events := by
  have hcalls : Along step (fun h _ => h.calls < UInt64.size) {} events :=
    calls_along (by rwa [Nat.zero_add])
  have hiff : Along step (fun h event => h.calls < UInt64.size ∧ Calm h event) {} events ↔
      Along step (fun h event => h.calls < UInt64.size ∧ Serves h event) {} events :=
    along_congr_of_invariant Inv
      (fun _ _ _ hinv hok hstep => hinv.moves hok.1 (moves_of_step hstep) hok.2)
      (fun _ _ _ hinv => and_congr_right fun hbound => (hinv.serves_iff hbound).symm) inv_empty
  grind [along_and]

theorem served_calmly : Along step Serves {}
    [.start "BTCUSDT", .handler 0 true, .start "ETHUSDT", .remove 1, .remove 2, .closeTaken 0] := by
  refine (serves_along_iff_calm _ (by decide)).mpr ⟨fun _ _ hws => (by cases hws), fun next hnext => ?_⟩
  cases hnext
  refine ⟨trivial, fun next hnext => ?_⟩
  cases hnext
  refine ⟨fun s k hws hk => ?_, fun _ _ => ⟨trivial, fun _ _ => ⟨trivial, fun _ _ =>
    ⟨trivial, fun _ _ => trivial⟩⟩⟩⟩
  cases hws
  cases hk
  rfl

def sharedThenFailed:List Event:=
 [.start "BTCUSDT",.start "ETHUSDT",.handler 0 false,.closeFailed 0,.returnFailed 0]

def closedThenFailed:List Event:=[.start "BTCUSDT",.close,.handler 0 false,.closeTaken 0,.closeFailed 0]

theorem shared_start_loses_socket :
 (∃ h,run step {} sharedThenFailed=some h∧h.ws=none∧h.callbacks=[("ETHUSDT",2)]∧
  h.starts 2=some {native:="ETHUSDT",id:=2,socket:=0,succeeded:=true}∧
  h.sockets 0=some {owner:=1,phase:=.returned,closes:=1})∧
 ∃ h,run step {} closedThenFailed=some h∧h.sockets 0=some {owner:=1,phase:=.closed,closes:=2}:=
 ⟨⟨_,rfl,by decide,by decide,by decide,by decide⟩,⟨_,rfl,by decide⟩⟩

end BolterTrader.Adapters.BybitTopicHub
