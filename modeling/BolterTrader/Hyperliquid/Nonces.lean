import BolterTrader.Foundations.Threads
import BolterTrader.Foundations.Transition

/-! The nonces of the actions that clients of one private key sign (`GetNextNonce` in
`sdk/hyperliquid/client.go` and in `sdk/hyperliquid/ws_client.go`). -/
namespace BolterTrader.Hyperliquid.Nonces
open Foundations Threads Transition List Option

inductive ClientKind where
 | spotRest | perpRest | webSocket

structure Client where
 kind:ClientKind
 lastNonce:Int64:=0

inductive Stage where
 | loading | loaded (last:Int64) | drawn (last candidate:Int64)
 deriving DecidableEq

structure Call where
 client:ℕ
 stage:Stage:=.loading

def Call.candidate (call:Call):Option Int64:=
 match call.stage with
 | .drawn _ candidate=>some candidate
 | _=>none

structure Draw where
 client:ℕ
 nonce:Int64

structure Signers where
 clients:List Client:=[]
 calls:List Call:=[]
 issued:List Draw:=[]

inductive Event where
 | build (kind:ClientKind)
 | call (client:ℕ)
 | load (call:ℕ)
 | clock (call:ℕ) (now:Int64)
 | swap (call:ℕ)

def nextNonce (last now:Int64):Int64:=if now≤last then last+1 else now

def Signers.setCall (s:Signers) (i:ℕ) (call:Call) (stage:Stage):Signers:=
 {s with calls:=s.calls.set i {call with stage}}

def Signers.issue (s:Signers) (i:ℕ) (call:Call) (client:Client) (candidate:Int64):Signers where
 clients:=s.clients.set call.client {client with lastNonce:=candidate}
 calls:=s.calls.eraseIdx i
 issued:=s.issued++[{client:=call.client,nonce:=candidate}]

def Signers.swap (s:Signers) (i:ℕ) (call:Call) (last candidate:Int64):Option Signers:=
 s.clients[call.client]?.map fun client=>
  if client.lastNonce=last then s.issue i call client candidate else s.setCall i call .loading

def step (s:Signers):Event→Option Signers
 | .build kind=>some {s with clients:=s.clients++[{kind}]}
 | .call client=>if client<s.clients.length then some {s with calls:=s.calls++[{client}]} else none
 | .load i=>
  s.calls[i]?.bind fun call=>
   match call.stage with
   | .loading=>s.clients[call.client]?.map fun client=>s.setCall i call (.loaded client.lastNonce)
   | _=>none
 | .clock i now=>
  s.calls[i]?.bind fun call=>
   match call.stage with
   | .loaded last=>some (s.setCall i call (.drawn last (nextNonce last now)))
   | _=>none
 | .swap i=>
  s.calls[i]?.bind fun call=>
   match call.stage with
   | .drawn last candidate=>s.swap i call last candidate
   | _=>none

inductive Moves (s:Signers):Event→Signers→Prop where
 | built {kind:ClientKind}:Moves s (.build kind) {s with clients:=s.clients++[{kind}]}
 | called {client:ℕ}:Moves s (.call client) {s with calls:=s.calls++[{client}]}
 | loaded {i:ℕ} {call:Call} {client:Client} (hcall:s.calls[i]?=some call)
  (hclient:s.clients[call.client]?=some client):
  Moves s (.load i) (s.setCall i call (.loaded client.lastNonce))
 | drawn {i:ℕ} {call:Call} {last now:Int64} (hcall:s.calls[i]?=some call) (hstage:call.stage=.loaded last):
  Moves s (.clock i now) (s.setCall i call (.drawn last (nextNonce last now)))
 | issued {i:ℕ} {call:Call} {client:Client} {candidate:Int64} (hcall:s.calls[i]?=some call)
  (hclient:s.clients[call.client]?=some client) (hstage:call.stage=.drawn client.lastNonce candidate):
  Moves s (.swap i) (s.issue i call client candidate)
 | retried {i:ℕ} {call:Call} (hcall:s.calls[i]?=some call):Moves s (.swap i) (s.setCall i call .loading)

theorem moves_of_step {s s':Signers} {event:Event} (h:step s event=some s'):Moves s event s':=by
 cases event with
 | build=>
  cases h
  exact .built
 | call=>
  simp only[step,ite_none_right_eq_some] at h
  obtain ⟨-,h⟩:=h
  cases h
  exact .called
 | load=>
  obtain ⟨call,hcall,hm⟩:=bind_eq_some_iff.mp h
  split at hm
  next=>
   obtain ⟨client,hcl,rfl⟩:=map_eq_some_iff.mp hm
   exact .loaded hcall hcl
  next=>cases hm
 | clock=>
  obtain ⟨call,hcall,hm⟩:=bind_eq_some_iff.mp h
  split at hm
  next last hsg=>
   cases hm
   exact .drawn hcall hsg
  next=>cases hm
 | swap=>
  obtain ⟨call,hcall,hm⟩:=bind_eq_some_iff.mp h
  split at hm
  next last candidate hsg=>
   obtain ⟨client,hcl,hif⟩:=map_eq_some_iff.mp hm
   split at hif
   next heq=>
    cases hif
    exact .issued hcall hcl (heq▸hsg)
   next=>
    cases hif
    exact .retried hcall
  next=>cases hm

/-! ## Where the nonces of one key are distinct -/

def ReadingAhead (s:Signers):Event→Prop
 | .clock i now=>∀ call∈s.calls[i]?,
  (∀ draw∈s.issued,draw.client≠call.client→ draw.nonce<now)∧
  (∀ other∈s.calls,other.client≠call.client → ∀ candidate∈other.candidate,candidate<now)∧
  call.stage≠.loaded Int64.maxValue
 | _=>True

instance ReadingAhead.decidable (s:Signers):∀ event,Decidable (ReadingAhead s event)
 | .clock i now=>
  inferInstanceAs (Decidable (∀ call∈s.calls[i]?,
   (∀ draw∈s.issued,draw.client≠call.client→ draw.nonce<now)∧
   (∀ other∈s.calls,other.client≠call.client → ∀ candidate∈other.candidate,candidate<now)∧
   call.stage≠.loaded Int64.maxValue))
 | .build _ | .call _ | .load _ | .swap _=>.isTrue trivial

theorem lt_nextNonce {last:Int64} (h:last≠Int64.maxValue) (now:Int64):last<nextNonce last now:=by
 rw[nextNonce]
 grind

theorem le_nextNonce {last:Int64} (h:last≠Int64.maxValue) (now:Int64):now≤nextNonce last now:=by
 rw[nextNonce]
 grind

structure Signers.Apart (s:Signers):Prop where
 nodup:(s.issued.map Draw.nonce).Nodup
 bounded:∀ draw∈s.issued,∃ client,s.clients[draw.client]?=some client∧draw.nonce≤client.lastNonce
 ahead:∀ call∈s.calls,∀ last candidate,call.stage=.drawn last candidate→ last<candidate
 fresh:∀ call∈s.calls,∀ candidate∈call.candidate,∀ draw∈s.issued,draw.client≠call.client →
  draw.nonce≠candidate
 apart:∀ call∈s.calls,∀ other∈s.calls,other.client≠call.client → ∀ candidate∈call.candidate,
  other.candidate≠some candidate

section
variable {s s':Signers} {event:Event} {i:ℕ} {call:Call}

theorem Signers.Apart.setCall (h:s.Apart) {stage:Stage}
 (hahe:∀ last candidate,stage=.drawn last candidate→ last<candidate)
 (hfr:∀ candidate∈Call.candidate {call with stage},∀ draw∈s.issued,draw.client≠call.client →
  draw.nonce≠candidate)
 (hapa:∀ candidate∈Call.candidate {call with stage},∀ other∈s.calls,other.client≠call.client →
  other.candidate≠some candidate):(s.setCall i call stage).Apart:=by
 refine ⟨h.nodup,h.bounded,forall_moved h.ahead hahe,forall_moved h.fresh hfr,?_⟩
 intro a ha b hb hne candidate hcan
 rcases mem_or_eq_of_mem_set ha with ha | rfl<;>rcases mem_or_eq_of_mem_set hb with hb | rfl
 · exact h.apart a ha b hb hne candidate hcan
 · intro hsame
   exact hapa candidate hsame a ha (Ne.symm hne) hcan
 all_goals grind

theorem Signers.Apart.draw (h:s.Apart) (hcall:s.calls[i]?=some call) {last now:Int64}
 (hsg:call.stage=.loaded last) (hcle:ReadingAhead s (.clock i now)):
 (s.setCall i call (.drawn last (nextNonce last now))).Apart:=by
 obtain ⟨hiss,hcal,hroom⟩:=hcle call hcall
 have hmax:last≠Int64.maxValue:=fun heq=>hroom (by rw[hsg,heq])
 have hle:=le_nextNonce hmax now
 refine h.setCall ?_ ?_ ?_
 · rintro _ _ ⟨⟩
   exact lt_nextNonce hmax now
 · rintro _ ⟨⟩ draw hdraw hne
   grind
 · rintro _ ⟨⟩ other hoth hne hsame
   exact Int64.ne_of_lt (Int64.lt_of_lt_of_le (hcal other hoth hne _ hsame) hle) rfl

theorem Signers.Apart.issue (h:s.Apart) {client:Client} {candidate:Int64} (hcall:s.calls[i]?=some call)
 (hcl:s.clients[call.client]?=some client) (hsg:call.stage=.drawn client.lastNonce candidate):
 (s.issue i call client candidate).Apart:=by
 have hmem:=mem_of_getElem? hcall
 have hlt:=h.ahead call hmem _ _ hsg
 have hcan:call.candidate=some candidate:=by rw[Call.candidate,hsg]
 have hsub:∀ other∈s.calls.eraseIdx i,other∈s.calls:=fun other=>mem_of_mem_eraseIdx
 refine ⟨?_,?_,fun other hoth=>h.ahead other (hsub other hoth),?_,?_⟩
 · -- the client's own nonces are at most its counter, those of others differ from the candidate
   have hnew:candidate∉s.issued.map Draw.nonce:=by
    intro hin
    obtain ⟨draw,hdraw,hn⟩:=mem_map.mp hin
    by_cases hown:draw.client=call.client
    · obtain ⟨owner,howne,hle⟩:=h.bounded draw hdraw
      grind
    · exact h.fresh call hmem candidate hcan draw hdraw hown hn
   rw[Signers.issue,map_append,map_singleton]
   refine nodup_append.mpr ⟨h.nodup,pairwise_singleton _ _,?_⟩
   grind
 · intro draw hdraw
   rcases mem_append.mp hdraw with hdraw | hdraw
   · obtain ⟨owner,howne,hle⟩:=h.bounded draw hdraw
     by_cases hown:draw.client=call.client
     · rw[hown] at howne ⊢
       cases hcl.symm.trans howne
       exact ⟨_,getElem?_moved_self hcl _,Int64.le_trans hle (Int64.le_of_lt hlt)⟩
     · exact ⟨owner,(getElem?_moved_ne hcl _ hown).trans howne,hle⟩
   · rw[mem_singleton.mp hdraw]
     exact ⟨_,getElem?_moved_self hcl _,Int64.le_refl candidate⟩
 · intro other hoth value hv draw hdraw hne
   rcases mem_append.mp hdraw with hdraw | hdraw
   · exact h.fresh other (hsub other hoth) value hv draw hdraw hne
   · rw[mem_singleton.mp hdraw] at hne ⊢
     rintro rfl
     exact h.apart call hmem other (hsub other hoth) (Ne.symm hne) candidate hcan hv
 · intro a ha b hb
   exact h.apart a (hsub a ha) b (hsub b hb)

theorem Signers.Apart.moves (h:s.Apart) (hcle:ReadingAhead s event) (hmv:Moves s event s'):s'.Apart:=by
 cases hmv with
 | built=>
  refine ⟨h.nodup,fun draw hdraw=>?_,h.ahead,h.fresh,h.apart⟩
  obtain ⟨client,hcl,hle⟩:=h.bounded draw hdraw
  grind
 | @called client=>
  have hnew:∀ {P:Call→Prop},(∀ call∈s.calls,P call)→P {client:=client} →
    ∀ call∈s.calls++[{client:=client}],P call:=
   fun hold hlast=>forall_mem_append.mpr ⟨hold,forall_mem_singleton.mpr hlast⟩
  refine ⟨h.nodup,h.bounded,hnew h.ahead nofun,hnew h.fresh nofun,hnew ?_ ?_⟩
  · exact fun call hcall=>hnew (h.apart call hcall) fun _ _ _=>nofun
  · exact fun _ _ _=>nofun
 | loaded | retried=>exact h.setCall nofun nofun nofun
 | drawn hcall hsg=>exact h.draw hcall hsg hcle
 | issued hcall hcl hsg=>exact h.issue hcall hcl hsg

theorem Signers.apart_new:Signers.Apart {}:=⟨nodup_nil,nofun,nofun,nofun,nofun⟩

/-- No two actions of one key carry the same nonce. -/
theorem nonces_distinct {events:List Event} (hclear:Along step ReadingAhead {} events)
 (hrun:run step {} events=some s):(s.issued.map Draw.nonce).Nodup:=by
 have happ:s.Apart:=by
  refine invariant_along Signers.Apart ?_ Signers.apart_new hclear hrun
  intro s event next h hok hstep
  exact h.moves hok (moves_of_step hstep)
 exact happ.nodup

end

def drawnInTurn:List Event:=
 [.build .spotRest,.build .perpRest,.call 0,.call 0,.load 0,.load 1,.clock 0 1000,.clock 1 1000,.swap 0,.swap 0,
  .load 0,.clock 0 1000,.swap 0,.call 1,.load 0,.clock 0 1002,.swap 0]

theorem nonces_distinct_in_turn :
 ∃ s,run step {} drawnInTurn=some s∧s.issued=[⟨0,1000⟩,⟨0,1001⟩,⟨1,1002⟩]∧
  (s.issued.map Draw.nonce).Nodup:=by
 have hcle:Along step ReadingAhead {} drawnInTurn:=by decide
 exact ⟨_,rfl,rfl,nonces_distinct hcle rfl⟩

theorem same_millisecond_same_nonce :
 ∃ s,run step {} [.build .spotRest,.build .perpRest,.call 0,.load 0,.clock 0 1748310859508,.swap 0,.call 1,
   .load 0,.clock 0 1748310859508,.swap 0]=some s∧
  s.issued=[⟨0,1748310859508⟩,⟨1,1748310859508⟩]∧¬(s.issued.map Draw.nonce).Nodup:=
 ⟨_,rfl,rfl,by decide⟩

end BolterTrader.Hyperliquid.Nonces
