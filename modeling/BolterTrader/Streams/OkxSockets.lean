import BolterTrader.Streams.BackendLifecycle

/-! The two sockets of the OKX public backend (`okx_public_websocket.go`): the socket of the
books, trades and references and the one of the candles call the same two reconnect hooks,
which tell every registered stream. -/
namespace BolterTrader.Streams.OkxSockets
open Foundations.Transition BackendLifecycle List

inductive Socket where
 | ws | candleWs
 deriving DecidableEq

def Socket.other:Socket→Socket
 | ws=>candleWs
 | candleWs=>ws

inductive Phase where
 | up
 | down
 | restoring (generation:UInt64)
 deriving DecidableEq

structure Backend where
 generation:UInt64:=0
 phase:Socket→Phase:=fun _=>.up
 handlers:List (ℕ×Socket):=[]
 registered:ℕ:=0
 told:List (ℕ×Status):=[]
 reported:ℕ→Option Socket:=fun _=>none

inductive Event where
 | register (carrier:Socket)
 | unregister (stream:ℕ)
 | started (socket:Socket)
 | recovered (socket:Socket)
 | activate (socket:Socket)

namespace Backend

def emitStatus (b:Backend) (status:Status):Backend:=
 {b with told:=b.told++b.handlers.map fun handler=>(handler.1,status)}

def setPhase (b:Backend) (k:Socket) (phase:Phase):Backend:={b with phase:=Function.update b.phase k phase}

def reconnectStarted (b:Backend) (k:Socket):Backend:=
 {(({b with generation:=b.generation+1}).setPhase k .down).emitStatus ⟨.gap,b.generation+1⟩ with
   reported:=fun i=>if i∈b.handlers.map Prod.fst then some k else b.reported i}

end Backend

def step (b:Backend):Event→Option Backend
 | .register carrier=>some {b with handlers:=b.handlers++[(b.registered,carrier)],registered:=b.registered+1}
 | .unregister i=>some {b with handlers:=b.handlers.filter fun handler=>handler.1≠i}
 | .started k=>if b.phase k=.up then some (b.reconnectStarted k) else none
 | .recovered k=>
  if b.phase k=.down then some ((b.setPhase k (.restoring b.generation)).emitStatus ⟨.resyncing,b.generation⟩) else none
 | .activate k=>
  match b.phase k with
  | .restoring generation=>some ((b.setPhase k .up).emitStatus ⟨.active,generation⟩)
  | _=>none

def Right (b:Backend):Event→Prop
 | .activate socket=>∀ generation,b.phase socket=.restoring generation → ∀ handler∈b.handlers,
  ∀ k∈b.reported handler.1,k=handler.2∧b.phase k≠.down
 | _=>True

def Alone (b:Backend):Event→Prop
 | .started k=>∀ handler∈b.handlers,handler.2=k∧b.phase k.other=.up
 | _=>True

structure Inv (b:Backend):Prop where
 numbered:∀ handler∈b.handlers,handler.1<b.registered
 fresh:∀ i,b.registered≤ i→ b.reported i=none
 own:∀ handler∈b.handlers,∀ k∈b.reported handler.1,k=handler.2∧(b.phase k=.down→ b.phase k.other=.up)

section
variable {b next:Backend} {event:Event} {k:Socket}

theorem eq_or_eq_other (k s:Socket):s=k∨s.other=k:=by cases k<;>cases s<;>decide

theorem other_ne (k:Socket):k.other≠k:=by cases k<;>decide

theorem phase_setPhase (b:Backend) (k s:Socket) (ph:Phase):
 (b.setPhase k ph).phase s=if s=k then ph else b.phase s:=Function.update_apply _ _ _ _

theorem Inv.setPhase (h:Inv b) {ph:Phase} (hph:b.phase k≠.up) (hnew:ph≠.down):
 Inv (b.setPhase k ph):=by
 refine ⟨h.numbered,h.fresh,fun handler hhd s hs=>⟨(h.own handler hhd s hs).1,fun hdown=>?_⟩⟩
 rw[phase_setPhase] at hdown
 split at hdown
 · exact absurd hdown hnew
 · next hne=>
   have hup:=(h.own handler hhd s hs).2 hdown
   rw[(eq_or_eq_other k s).resolve_left hne] at hup
   exact absurd hup hph

theorem Inv.reconnectStarted (h:Inv b) (halo:Alone b (.started k)):Inv (b.reconnectStarted k):=by
 refine ⟨h.numbered,fun i hi=>?_,fun handler hhd s hs=>?_⟩
 · have hnot:i∉b.handlers.map Prod.fst:=by
    intro hmem
    obtain ⟨handler,hhd,rfl⟩:=mem_map.mp hmem
    exact Nat.not_lt.mpr hi (h.numbered handler hhd)
   exact (if_neg hnot).trans (h.fresh i hi)
 · have hrep:(b.reconnectStarted k).reported handler.1=some k:=if_pos (mem_map_of_mem hhd)
   cases hrep.symm.trans hs
   obtain ⟨hown,hoth⟩:=halo handler hhd
   refine ⟨hown.symm,fun _=>?_⟩
   exact (phase_setPhase _ _ _ _).trans ((if_neg (other_ne k)).trans hoth)

theorem Inv.step (h:Inv b) (halo:Alone b event) (hstep:step b event=some next):Inv next:=by
 cases event with
 | register=>
  cases hstep
  refine ⟨fun handler hhd=>?_,fun i hi=>h.fresh i (Nat.le_of_succ_le hi),fun handler hhd k hk=>?_⟩
  · obtain hold | hnew:=mem_append.mp hhd
    · exact Nat.lt_succ_of_lt (h.numbered handler hold)
    · grind
  · obtain hold | hnew:=mem_append.mp hhd
    · exact h.own handler hold k hk
    · rw[mem_singleton.mp hnew,h.fresh b.registered (Nat.le_refl _)] at hk
      cases hk
 | unregister=>
  cases hstep
  exact ⟨fun handler hhd=>h.numbered handler (mem_filter.mp hhd).1,h.fresh,
   fun handler hhd=>h.own handler (mem_filter.mp hhd).1⟩
 | started=>
  obtain ⟨-,hnext⟩:=Option.ite_none_right_eq_some.mp hstep
  cases hnext
  exact h.reconnectStarted halo
 | recovered k=>
  obtain ⟨hdown,hnext⟩:=Option.ite_none_right_eq_some.mp hstep
  cases hnext
  have hset:Inv (b.setPhase k (.restoring b.generation)):=h.setPhase (by rw[hdown]; nofun) nofun
  exact ⟨hset.numbered,hset.fresh,hset.own⟩
 | activate k=>
  simp only[OkxSockets.step] at hstep
  split at hstep
  · next gen hres=>
    cases hstep
    have hset:Inv (b.setPhase k .up):=h.setPhase (by rw[hres]; nofun) nofun
    exact ⟨hset.numbered,hset.fresh,hset.own⟩
  · cases hstep

theorem Inv.right (h:Inv b):Right b event:=by
 cases event with
 | register _ | unregister _ | started _ | recovered _=>trivial
 | activate sk=>
  intro gen hres handler hhd k hk
  obtain ⟨hown,hoth⟩:=h.own handler hhd k hk
  refine ⟨hown,fun hdown=>?_⟩
  obtain rfl | rfl:=eq_or_eq_other sk k
  all_goals grind

theorem told_active_early (hup:b.phase k=.up) (hshared:¬Alone b (.started k)):
 ∃ later,¬Along step Right b (.started k::later):=by
 simp only[Alone,not_forall] at hshared
 obtain ⟨handler,hhd,hbre⟩:=hshared
 have hstd:OkxSockets.step b (.started k)=some (b.reconnectStarted k):=if_pos hup
 have hrep:(b.reconnectStarted k).reported handler.1=some k:=if_pos (mem_map_of_mem hhd)
 have hph (s:Socket):(b.reconnectStarted k).phase s=if s=k then .down else b.phase s:=phase_setPhase _ _ _ _
 by_cases hown:handler.2=k
 · have haway:b.phase k.other≠.up:=fun hoth=>hbre ⟨hown,hoth⟩
   have hoth:(b.reconnectStarted k).phase k.other=b.phase k.other:=(hph _).trans (if_neg (other_ne k))
   cases hk : b.phase k.other with
   | up=>exact absurd hk haway
   | restoring generation=>
    refine ⟨[.activate k.other],fun halo=>?_⟩
    refine ((halo.2 _ hstd).1 generation (hoth.trans hk) handler hhd k hrep).2 ?_
    grind
   | down=>
    refine ⟨[.recovered k.other,.activate k.other],fun halo=>?_⟩
    have hlast:=((halo.2 _ hstd).2 _ (if_pos (hoth.trans hk))).1 _
     ((phase_setPhase _ _ _ _).trans (if_pos rfl)) handler hhd k hrep
    refine hlast.2 ((phase_setPhase _ _ _ _).trans ((if_neg (other_ne k).symm).trans ((hph k).trans (if_pos rfl))))
 · refine ⟨[.recovered k,.activate k],fun halo=>?_⟩
   have hdown:(b.reconnectStarted k).phase k=.down:=(hph k).trans (if_pos rfl)
   have hlast:=((halo.2 _ hstd).2 _ (if_pos hdown)).1 _ ((phase_setPhase _ _ _ _).trans (if_pos rfl)) handler
    hhd k hrep
   exact hown hlast.1.symm

end

/-- A stream is told that it is active only by the socket that carries it. -/
theorem active_told_by_own_socket (events:List Event) (halone:Along step Alone {} events):
 Along step Right {} events:=by
 have hnew:Inv {}:=⟨nofun,fun _ _=>rfl,nofun⟩
 exact along_of_invariant Inv (fun _ _ _ h halone hstep=>h.step halone hstep) (fun _ _ h _=>h.right) hnew halone

theorem candles_told_alone :
 Along step Right {} [.register .candleWs,.started .candleWs,.recovered .candleWs,.activate .candleWs]:=by
 refine active_told_by_own_socket _ ⟨trivial,fun _ h=>?_⟩
 cases h
 refine ⟨by simp[Alone],fun _ h=>?_⟩
 cases h
 exact ⟨trivial,fun _ _=>⟨trivial,fun _ _=>trivial⟩⟩

theorem book_told_by_candle_socket :
 ∃ b,run step {} [.register .ws,.started .ws,.started .candleWs,.recovered .candleWs]=some b∧
  b.phase .ws=.down∧¬Right b (.activate .candleWs)∧
  ∃ next,step b (.activate .candleWs)=some next∧next.told.getLast?=some (0,⟨.active,2⟩):=by
 refine ⟨_,rfl,rfl,fun hrig=>?_,_,rfl,rfl⟩
 exact absurd (hrig 2 rfl (0,.ws) (by decide) .candleWs rfl).1 (by decide)

end BolterTrader.Streams.OkxSockets
