import BolterTrader.Gateway.AccountStream

/-! The positions of an account against the order of things at the venue
(`gateway/account/runtime.go`). -/
namespace BolterTrader.AccountStream
open Foundations Exchange Gateway Transition Threads List Option

structure Flight where
 stream:ℕ
 market:Market
 version:ℕ
 id:String
 event:PositionEvent

structure Snapshot where
 market:Market
 version:ℕ
 natives:List Position

/-- What changed the rows of an instrument: an event of the private stream, or the answer of a REST read
of the market. -/
inductive Write where
  | event (flight : Flight)
  | answer (snapshot : Snapshot)

def Write.version : Write → ℕ
  | .event flight => flight.version
  | .answer snapshot => snapshot.version

/-- The gateway with what is under way between the venue and it. `versions` counts the states of each
market at the venue, and `writes` is what changed the rows of an instrument, the oldest first. -/
structure Dated where
  system : System := {}
  versions : Market → ℕ := fun _ => 0
  flights : List Flight := []
  snapshots : List Snapshot := []
  writes : Market → String → List Write := fun _ _ => []

inductive DatedEvent where
 | produce (market:Market) (id:String) (event:PositionEvent) (streams:List ℕ)
 | deliver (flight:ℕ)
 | lose (flight:ℕ)
 | answer (market:Market) (natives:List Position)
 | store (snapshot:ℕ)
 | miss (snapshot:ℕ)
 | other (event:Event)

def undated:Event→Bool
 | .position .. | .load ..=>false
 | _=>true

namespace Dated
variable (d:Dated)

def watches (market:Market) (j:ℕ):Bool:=(d.system.streams[j]?.map MarketStream.market)=some market

def send (market:Market) (id:String) (event:PositionEvent) (streams:List ℕ):Dated:=
 let version:=d.versions market+1
 {d with
   versions:=Function.update d.versions market version
   flights:=d.flights++streams.map fun stream=>{stream,market,version,id,event}}

def isNext (k:ℕ) (flight:Flight):Bool:=(d.flights.take k).all fun earlier=>earlier.stream≠flight.stream

def applied (k : ℕ) (flight : Flight) (system : System) : Dated :=
  {d with
    system
    flights := d.flights.eraseIdx k
    writes := fun market id => if market = flight.market ∧ id = flight.id
      then d.writes market id ++ [.event flight] else d.writes market id}

def stored (k : ℕ) (snapshot : Snapshot) (system : System) : Dated :=
  {d with
    system
    snapshots := d.snapshots.eraseIdx k
    writes := fun market id => if market = snapshot.market
      then d.writes market id ++ [.answer snapshot] else d.writes market id}

/-- The state of the venue that the rows of an instrument come from. -/
def stamps (market : Market) (id : String) : ℕ :=
  ((d.writes market id).getLast?.map Write.version).getD 0

def rowsOf (market : Market) (id : String) : List PositionRow :=
  (d.system.rt.positions market).filter (·.instrument = id)

end Dated

variable (account:Account)

def Dated.step (d:Dated):DatedEvent→Option Dated
 | .produce market id event streams=>
  if streams.all (d.watches market) then some (d.send market id event streams) else none
 | .deliver k=>
  (d.flights[k]?.filter (d.isNext k)).bind fun flight=>
   (AccountStream.step account d.system (.position flight.stream flight.id flight.event)).map (d.applied k flight)
 | .lose k=>d.flights[k]?.map fun _=>{d with flights:=d.flights.eraseIdx k}
 | .answer market natives=>some {d with snapshots:=d.snapshots++[{market,version:=d.versions market,natives}]}
 | .store k=>
  d.snapshots[k]?.bind fun snapshot=>
   (AccountStream.step account d.system (.load snapshot.market snapshot.natives)).map (d.stored k snapshot)
 | .miss k=>d.snapshots[k]?.map fun _=>{d with snapshots:=d.snapshots.eraseIdx k}
 | .other event=>
  if undated event then (AccountStream.step account d.system event).map fun system=>{d with system} else none

def Dated.InOrder (d:Dated):DatedEvent→Prop
 | .answer market _=>(∀ flight∈d.flights,flight.market≠market)∧∀ snapshot∈d.snapshots,snapshot.market≠market
 | .deliver k=>∀ flight,d.flights[k]?=some flight →
  (∀ other∈d.flights,other.market=flight.market→ flight.version≤other.version)∧
   ∀ snapshot∈d.snapshots,snapshot.market≠flight.market
 | _=>True

instance (d:Dated):∀ event:DatedEvent,Decidable (d.InOrder event)
 | .answer market _=>
  inferInstanceAs (Decidable
   ((∀ flight∈d.flights,flight.market≠market)∧∀ snapshot∈d.snapshots,snapshot.market≠market))
 | .deliver k=>
  match h : d.flights[k]? with
  | none=>.isTrue fun _ hflight=>nomatch h.symm.trans hflight
  | some flight=>
   decidable_of_iff
    ((∀ other∈d.flights,other.market=flight.market→ flight.version≤other.version)∧
     ∀ snapshot∈d.snapshots,snapshot.market≠flight.market)
    ⟨fun hok _ hother=>Option.some.inj (h.symm.trans hother)▸hok,fun hall=>hall flight h⟩
 | .produce .. | .lose _ | .store _ | .miss _ | .other _=>.isTrue trivial

variable {account} {d d':Dated} {event:DatedEvent}

structure Dated.Current (d:Dated):Prop where
 stored:∀ market id,d.stamps market id≤d.versions market
 produced:∀ flight∈d.flights,flight.version≤d.versions flight.market
 flights:∀ flight∈d.flights,∀ id,d.stamps flight.market id≤flight.version
 taken:∀ snapshot∈d.snapshots,snapshot.version≤d.versions snapshot.market
 snapshots:∀ snapshot∈d.snapshots,∀ id,d.stamps snapshot.market id≤ snapshot.version
 later:∀ snapshot∈d.snapshots,∀ flight∈d.flights,flight.market=snapshot.market →
  snapshot.version≤flight.version
 single:d.snapshots.Pairwise fun a b=>a.market≠b.market

theorem stamps_applied (d : Dated) (k : ℕ) (flight : Flight) (system : System) (market : Market)
    (id : String) : (d.applied k flight system).stamps market id =
      if market = flight.market ∧ id = flight.id then flight.version else d.stamps market id := by
  grind [Dated.stamps,Dated.applied,Write.version]

theorem stamps_stored (d : Dated) (k : ℕ) (snapshot : Snapshot) (system : System) (market : Market)
    (id : String) : (d.stored k snapshot system).stamps market id =
      if market = snapshot.market then snapshot.version else d.stamps market id := by
  grind [Dated.stamps,Dated.stored,Write.version]

inductive Dates (d:Dated):DatedEvent→Dated→Prop where
 | sent (market:Market) (id:String) (event:PositionEvent) (streams:List ℕ):
  Dates d (.produce market id event streams) (d.send market id event streams)
 | applied {k:ℕ} {flight:Flight} (hk:d.flights[k]?=some flight) (system:System):
  Dates d (.deliver k) (d.applied k flight system)
 | answered (market:Market) (natives:List Position):
  Dates d (.answer market natives)
   {d with snapshots:=d.snapshots++[{market,version:=d.versions market,natives}]}
 | stored {k:ℕ} {snapshot:Snapshot} (hk:d.snapshots[k]?=some snapshot) (system:System):
  Dates d (.store k) (d.stored k snapshot system)
 | shrunk {event:DatedEvent} {d':Dated} (hevent:∀ k,event≠.deliver k) (hversions:d'.versions=d.versions)
  (hwrites:d'.writes=d.writes) (hflights:d'.flights.Sublist d.flights)
  (hsnapshots:d'.snapshots.Sublist d.snapshots):Dates d event d'

theorem dates_of_step (h:Dated.step account d event=some d'):Dates d event d':=by
 cases event with
 | produce market id event streams=>
  simp only[Dated.step] at h
  split at h<;>cases h
  exact .sent market id event streams
 | deliver=>
  obtain ⟨flight,hfl,h⟩:=bind_eq_some_iff.mp h
  obtain ⟨system,-,rfl⟩:=map_eq_some_iff.mp h
  exact .applied (filter_eq_some_iff.mp hfl).1 system
 | lose=>
  obtain ⟨flight,-,rfl⟩:=map_eq_some_iff.mp h
  exact .shrunk nofun rfl rfl (eraseIdx_sublist _ _) (Sublist.refl _)
 | answer market natives=>
  cases h
  exact .answered market natives
 | store=>
  obtain ⟨snapshot,hk,h⟩:=bind_eq_some_iff.mp h
  obtain ⟨system,-,rfl⟩:=map_eq_some_iff.mp h
  exact .stored hk system
 | miss=>
  obtain ⟨snapshot,-,rfl⟩:=map_eq_some_iff.mp h
  exact .shrunk nofun rfl rfl (Sublist.refl _) (eraseIdx_sublist _ _)
 | other=>
  simp only[Dated.step] at h
  split at h
  · obtain ⟨system,-,rfl⟩:=map_eq_some_iff.mp h
    exact .shrunk nofun rfl rfl (Sublist.refl _) (Sublist.refl _)
  · cases h

theorem versions_send_le (d:Dated) (market:Market) (id:String) (event:PositionEvent) (streams:List ℕ)
 (other:Market):d.versions other≤(d.send market id event streams).versions other:=by
 by_cases hoth:other=market<;>simp[Dated.send,hoth]

theorem mem_send {market:Market} {id:String} {event:PositionEvent} {streams:List ℕ} {flight:Flight}
 (h:flight∈(d.send market id event streams).flights):
 flight∈d.flights∨flight.market=market∧flight.version=d.versions market+1:=by
 obtain hold | hnew:=mem_append.mp h
 all_goals grind

theorem Dated.Current.send (h:d.Current) (market:Market) (id:String) (event:PositionEvent) (streams:List ℕ):
 (d.send market id event streams).Current:=by
 have hle:=versions_send_le d market id event streams
 refine ⟨?_,?_,?_,?_,h.snapshots,?_,h.single⟩
 · intro other key
   exact (h.stored other key).trans (hle other)
 · intro flight hfl
   obtain hold | ⟨hmk,hver⟩:=mem_send hfl
   · exact (h.produced flight hold).trans (hle flight.market)
   · rw[hmk,hver]
     simp[Dated.send]
 · intro flight hfl key
   obtain hold | ⟨hmk,hver⟩:=mem_send hfl
   · exact h.flights flight hold key
   · have hsto:=h.stored flight.market key
     rw[hver,←hmk]
     exact hsto.trans (Nat.le_succ _)
 · intro snapshot hsn
   exact (h.taken snapshot hsn).trans (hle snapshot.market)
 · intro snapshot hsn flight hfl hsame
   obtain hold | ⟨hmk,hver⟩:=mem_send hfl
   · exact h.later snapshot hsn flight hold hsame
   · have htak:=h.taken snapshot hsn
     grind

theorem Dated.Current.shrunk (h:d.Current) (hver:d'.versions=d.versions) (hsta:d'.stamps=d.stamps)
 (hfli:d'.flights.Sublist d.flights) (hsna:d'.snapshots.Sublist d.snapshots):d'.Current:=by
 refine ⟨?_,?_,?_,?_,?_,?_,h.single.sublist hsna⟩
 · rw[hver,hsta]
   exact h.stored
 · rw[hver]
   exact fun flight hfl=>h.produced flight (hfli.mem hfl)
 · rw[hsta]
   exact fun flight hfl=>h.flights flight (hfli.mem hfl)
 · rw[hver]
   exact fun snapshot hsn=>h.taken snapshot (hsna.mem hsn)
 · rw[hsta]
   exact fun snapshot hsn=>h.snapshots snapshot (hsna.mem hsn)
 · intro snapshot hsn flight hfl
   exact h.later snapshot (hsna.mem hsn) flight (hfli.mem hfl)

theorem Dated.Current.applied {k:ℕ} {flight:Flight} (h:d.Current) (hk:d.flights[k]?=some flight)
 (hord:d.InOrder (.deliver k)) (system:System):(d.applied k flight system).Current:=by
 obtain ⟨hfst,hnone⟩:=hord flight hk
 have hmem:=mem_of_getElem? hk
 have hrest:∀ other∈(d.applied k flight system).flights,other∈d.flights:=fun _=>mem_of_mem_eraseIdx
 refine ⟨?_,?_,?_,h.taken,?_,?_,h.single⟩
 · intro market id
   rw[stamps_applied]
   split
   next hsame=>exact hsame.1▸h.produced flight hmem
   next=>exact h.stored market id
 · exact fun other hoth=>h.produced other (hrest other hoth)
 · intro other hoth id
   rw[stamps_applied]
   split
   next hsame=>exact hfst other (hrest other hoth) hsame.1
   next=>exact h.flights other (hrest other hoth) id
 · intro snapshot hsn id
   rw[stamps_applied,if_neg fun hsame=>hnone snapshot hsn hsame.1]
   exact h.snapshots snapshot hsn id
 · exact fun snapshot hsn other hoth=>h.later snapshot hsn other (hrest other hoth)

theorem Dated.Current.answered {market:Market} {natives:List Position} (h:d.Current)
 (hord:d.InOrder (.answer market natives)):
 Dated.Current {d with snapshots:=d.snapshots++[{market,version:=d.versions market,natives}]}:=by
 obtain ⟨hfli,hsna⟩:=hord
 refine ⟨h.stored,h.produced,h.flights,?_,?_,?_,?_⟩
 · intro snapshot hsn
   obtain hold | hnew:=mem_append.mp hsn
   · exact h.taken snapshot hold
   · rw[mem_singleton.mp hnew]
 · intro snapshot hsn id
   obtain hold | hnew:=mem_append.mp hsn
   · exact h.snapshots snapshot hold id
   · rw[mem_singleton.mp hnew]
     exact h.stored market id
 · intro snapshot hsn flight hfl hsame
   obtain hold | hnew:=mem_append.mp hsn
   · exact h.later snapshot hold flight hfl hsame
   · grind
 · refine pairwise_append.mpr ⟨h.single,pairwise_singleton _ _,?_⟩
   grind

theorem Dated.Current.loaded {k:ℕ} {snapshot:Snapshot} (h:d.Current) (hk:d.snapshots[k]?=some snapshot)
 (system:System):(d.stored k snapshot system).Current:=by
 obtain ⟨before,after,hsp,-,-,hera⟩:=exists_split hk
 have hmem:=mem_of_getElem? hk
 -- no other answer of the market is under way
 have hos:∀ other∈(d.stored k snapshot system).snapshots,other∈d.snapshots∧other.market≠snapshot.market:=by
  intro other hoth
  have hoth:other∈before++after:=hera▸hoth
  refine ⟨mem_of_others hsp hoth,?_⟩
  have hsg:=h.single
  grind
 refine ⟨?_,h.produced,?_,fun other hoth=>h.taken other (hos other hoth).1,?_,
  fun other hoth=>h.later other (hos other hoth).1,h.single.sublist (eraseIdx_sublist _ _)⟩
 · intro market id
   rw[stamps_stored]
   split
   next hsame=>exact hsame▸h.taken snapshot hmem
   next=>exact h.stored market id
 · intro flight hfl id
   rw[stamps_stored]
   split
   next hsame=>exact h.later snapshot hmem flight hfl hsame
   next=>exact h.flights flight hfl id
 · intro other hoth id
   obtain ⟨hold,hne⟩:=hos other hoth
   rw[stamps_stored,if_neg hne]
   exact h.snapshots other hold id

theorem Dated.Current.step (h:d.Current) (hord:d.InOrder event) (hstep:Dated.step account d event=some d'):
 d'.Current:=by
 cases dates_of_step hstep with
 | sent market id event streams=>exact h.send market id event streams
 | applied hk system=>exact h.applied hk hord system
 | answered=>exact h.answered hord
 | stored hk system=>exact h.loaded hk system
 | shrunk hev hver hwr hfli hsna=>exact h.shrunk hver (by unfold Dated.stamps; rw[hwr]) hfli hsna

theorem Dated.Current.stamps_le (h:d.Current) (hstep:Dated.step account d event=some d') (market:Market)
 (id:String):d.stamps market id≤d'.stamps market id:=by
 cases dates_of_step hstep with
 | sent | answered=>exact Nat.le_refl _
 | @applied k flight hk=>
  rw[stamps_applied]
  split
  next hsame=>exact hsame.1▸h.flights flight (mem_of_getElem? hk) id
  next=>exact Nat.le_refl _
 | @stored k snapshot hk=>
  rw[stamps_stored]
  split
  next hsame=>exact hsame▸h.snapshots snapshot (mem_of_getElem? hk) id
  next=>exact Nat.le_refl _
 | shrunk hev hver hwr=>rw[Dated.stamps,Dated.stamps,hwr]

theorem current_empty : ({} : Dated).Current :=
  ⟨by simp [Dated.stamps], by simp, by simp, by simp, by simp, by simp, Pairwise.nil⟩

/-! ## The order of the writes -/

def Dated.Ordered (d : Dated) : Prop :=
  ∀ market id, (d.writes market id).Pairwise fun a b => a.version ≤ b.version

theorem Dated.Ordered.version_le (h : d.Ordered) {market : Market} {id : String} {write : Write}
    (hwrite : write ∈ d.writes market id) : write.version ≤ d.stamps market id := by
  unfold Dated.stamps
  have hpairs := h market id
  rcases eq_nil_or_concat (d.writes market id) with hnil | ⟨init, last, hlast⟩
  · grind
  · rw [concat_eq_append] at hlast
    rw [hlast] at hwrite hpairs ⊢
    rw [getLast?_concat]
    rcases mem_append.mp hwrite with hinit | hsame
    · exact (pairwise_append.mp hpairs).2.2 write hinit last mem_cons_self
    · grind

theorem Dated.Ordered.append (h : d.Ordered) {market : Market} {id : String} {new : Write}
    (hnew : d.stamps market id ≤ new.version) :
    (d.writes market id ++ [new]).Pairwise fun a b => a.version ≤ b.version := by
  refine pairwise_append.mpr ⟨h market id, pairwise_singleton _ _, fun write hwrite last hlast => ?_⟩
  rw [mem_singleton.mp hlast]
  exact (h.version_le hwrite).trans hnew

theorem Dated.Ordered.step (h : d.Ordered) (hcurrent : d.Current)
    (hstep : Dated.step account d event = some d') :
    d'.Ordered ∧ ∀ market id, d.writes market id <+: d'.writes market id := by
  cases dates_of_step hstep with
  | sent | answered => exact ⟨h, fun _ _ => prefix_rfl⟩
  | @applied k flight hk =>
    have hflights := hcurrent.flights flight (mem_of_getElem? hk)
    refine ⟨fun market id => ?_, fun market id => ?_⟩ <;> dsimp only [Dated.applied] <;> split
    · next hsame => exact h.append (hsame.1 ▸ hflights id)
    · exact h market id
    all_goals grind
  | @stored k snapshot hk =>
    have hsnapshots := hcurrent.snapshots snapshot (mem_of_getElem? hk)
    refine ⟨fun market id => ?_, fun market id => ?_⟩ <;> dsimp only [Dated.stored] <;> split
    · next hsame => exact h.append (hsame ▸ hsnapshots id)
    · exact h market id
    all_goals grind
  | shrunk _ _ hwrites =>
    refine ⟨fun market id => ?_, fun market id => ?_⟩ <;> rw [hwrites]
    · exact h market id

/-! ## The rows that the writes leave -/

/-- The rows of an instrument in the answer of a read of its market. -/
def answeredRows (account : Account) (market : Market) (id : String) (natives : List Position) :
    List PositionRow :=
  natives.filterMap fun native =>
    if account.resolveNative market native.nativeSymbol native.nativeId = some id
    then projectPosition id native else none

/-- The rows of an instrument after an event: a snapshot replaces them all, a delta those of its slots. -/
def eventRows (id : String) (event : PositionEvent) (rows : List PositionRow) : List PositionRow :=
  rows.filter (fun row => event.kind ≠ .snapshot && !(event.positions.map (·.positionSlot)).contains row.slot) ++
    event.positions.filterMap (projectPosition id)

def replay (account : Account) (market : Market) (id : String) (writes : List Write) : List PositionRow :=
  writes.foldl (fun rows write => match write with
    | .event flight => eventRows id flight.event rows
    | .answer snapshot => answeredRows account market id snapshot.natives) []

theorem instrument_of_projectPosition {id : String} {position : Position} {row : PositionRow}
    (h : projectPosition id position = some row) : row.instrument = id := by
  grind [projectPosition]

theorem projected_filter (id other : String) (positions : List Position) :
    (positions.filterMap (projectPosition id)).filter (·.instrument = other) =
      if other = id then positions.filterMap (projectPosition id) else [] := by
  split
  · next hsame =>
    refine filter_eq_self.mpr fun row hrow => ?_
    obtain ⟨position, -, hposition⟩ := mem_filterMap.mp hrow
    rw [instrument_of_projectPosition hposition, hsame, decide_eq_true_eq]
  · next hne =>
    refine filter_eq_nil_iff.mpr fun row hrow => ?_
    obtain ⟨position, -, hposition⟩ := mem_filterMap.mp hrow
    rw [instrument_of_projectPosition hposition, decide_eq_true_eq]
    exact Ne.symm hne

theorem fetchPositions_rows (account : Account) (market : Market) (id : String) (natives : List Position) :
    ((fetchPositions account market natives).filter (·.instrument = id)).Perm
      (answeredRows account market id natives) := by
  refine ((account.sortPositions.perm _).filter _).trans (.of_eq ?_)
  rw [filter_filterMap, answeredRows]
  refine filterMap_congr fun native _ => ?_
  cases hresolve : account.resolveNative market native.nativeSymbol native.nativeId with
  | none => rfl
  | some found =>
    rw [Option.bind_some]
    cases hrow : projectPosition found native with
    | none => by_cases hsame : found = id <;> simp_all
    | some row =>
      grind [instrument_of_projectPosition]

theorem foldPositions_rows (sort : SliceSort positionLess) (rows : List PositionRow) (id other : String)
    (event : PositionEvent) : ((foldPositions sort rows id event).filter (·.instrument = other)).Perm
      (if other = id then eventRows id event (rows.filter (·.instrument = other))
        else rows.filter (·.instrument = other)) := by
  refine ((sort.perm _).filter _).trans (.of_eq ?_)
  rw [filter_append, projected_filter, List.filter_filter]
  split
  · next hsame =>
    subst hsame
    rw [eventRows, List.filter_filter]
    grind
  · grind

/-- A stream keeps its market. -/
theorem watches_of_moves {s s' : System} {event : Event} (h : Moves s event s') {market : Market} {j : ℕ}
    (hj : s.streams[j]?.map MarketStream.market = some market) :
    s'.streams[j]?.map MarketStream.market = some market := by
  have hset : ∀ {k : ℕ} {stream new : MarketStream}, s.streams[k]? = some stream →
      new.market = stream.market → s'.streams = s.streams.set k new →
      s'.streams[j]?.map MarketStream.market = some market := by
    intro k stream new hk hmarket hstreams
    rw [hstreams, getElem?_set]
    split
    · grind
    · exact hj
  cases h with
  | quiet _ _ hstreams => rw [hstreams]; exact hj
  | exited _ _ _ _ hstreams => rw [hstreams]; exact hj
  | started markets _ _ hstreams =>
    grind
  | moved hk _ hstreams _ _ _ hmarket => exact hset hk hmarket hstreams
  | reported hk _ hstreams _ _ _ hmarket => exact hset hk hmarket hstreams

theorem rt_of_undated {s s' : System} {event : Event} (hundated : undated event = true)
    (h : step account s event = some s') : s'.rt = s.rt := by
  cases event with
  | position | load => cases hundated
  | reopen | publishPositions | publishStatus =>
    cases h
    rfl
  | start =>
    simp only [step] at h
    split at h <;> cases h
    rfl
  | refuse | leave | report | fail | bindPositions | readPositions | emitPositions | readStatus
  | emitStatus | exit =>
    obtain ⟨_, -, rfl⟩ := map_eq_some_iff.mp h
    rfl

/-- The rows of each instrument are those that the writes leave, in their order. -/
structure Dated.Follows (account : Account) (d : Dated) : Prop where
  seated : ∀ flight ∈ d.flights, d.watches flight.market flight.stream = true
  rows : ∀ market id, (d.rowsOf market id).Perm (replay account market id (d.writes market id))

theorem replay_concat (market : Market) (id : String) (writes : List Write) (write : Write) :
    replay account market id (writes ++ [write]) = match write with
      | .event flight => eventRows id flight.event (replay account market id writes)
      | .answer snapshot => answeredRows account market id snapshot.natives := by
  rw [replay, foldl_append]
  rfl

theorem Dated.Follows.applied {k : ℕ} {flight : Flight} (h : d.Follows account)
    (hk : d.flights[k]? = some flight) {system : System}
    (hstep : AccountStream.step account d.system (.position flight.stream flight.id flight.event) = some system) :
    (d.applied k flight system).Follows account := by
  have hmoves := moves_of_step hstep
  obtain ⟨stream, hlive, rfl⟩ := map_eq_some_iff.mp hstep
  have hmarket : stream.market = flight.market := by
    have hseat := of_decide_eq_true (h.seated flight (mem_of_getElem? hk))
    grind [of_live]
  refine ⟨fun other hother => ?_, fun market id => ?_⟩
  · exact decide_eq_true (watches_of_moves hmoves
      (of_decide_eq_true (h.seated other (mem_of_mem_eraseIdx hother))))
  · dsimp only [Dated.applied, Dated.rowsOf, System.applyPositionEvent, Runtime.applyPositionEvent]
    rw [hmarket]
    by_cases hsame : market = flight.market
    · subst hsame
      rw [Function.update_self]
      refine (foldPositions_rows _ _ _ _ _).trans ?_
      by_cases hid : id = flight.id
      · subst hid
        rw [if_pos rfl, if_pos ⟨rfl, rfl⟩, replay_concat]
        exact ((h.rows _ _).filter _).append_right _
      · rw [if_neg hid, if_neg fun hboth => hid hboth.2]
        exact h.rows _ _
    · rw [Function.update_of_ne hsame, if_neg fun hboth => hsame hboth.1]
      exact h.rows _ _

theorem Dated.Follows.loaded {k : ℕ} {snapshot : Snapshot} (h : d.Follows account) {system : System}
    (hstep : AccountStream.step account d.system (.load snapshot.market snapshot.natives) = some system) :
    (d.stored k snapshot system).Follows account := by
  have hmoves := moves_of_step hstep
  refine ⟨fun flight hflight => decide_eq_true (watches_of_moves hmoves
    (of_decide_eq_true (h.seated flight hflight))), fun market id => ?_⟩
  simp only [AccountStream.step] at hstep
  split at hstep <;> cases hstep
  dsimp only [Dated.stored, Dated.rowsOf, System.loadMarket]
  by_cases hsame : market = snapshot.market
  · grind [replay_concat,fetchPositions_rows]
  · rw [Function.update_of_ne hsame, if_neg hsame]
    exact h.rows _ _

theorem Dated.Follows.step (h : d.Follows account) (hstep : Dated.step account d event = some d') :
    d'.Follows account := by
  cases event with
  | produce market id event streams =>
    simp only [Dated.step] at hstep
    split at hstep <;> cases hstep
    next hall =>
    refine ⟨fun flight hflight => ?_, h.rows⟩
    rcases mem_append.mp hflight with hold | hnew
    · exact h.seated flight hold
    · obtain ⟨stream, hstream, rfl⟩ := mem_map.mp hnew
      exact all_eq_true.mp hall stream hstream
  | deliver =>
    obtain ⟨flight, hflight, hstep⟩ := bind_eq_some_iff.mp hstep
    obtain ⟨system, hsystem, rfl⟩ := map_eq_some_iff.mp hstep
    exact h.applied (filter_eq_some_iff.mp hflight).1 hsystem
  | lose =>
    obtain ⟨_, -, rfl⟩ := map_eq_some_iff.mp hstep
    exact ⟨fun flight hflight => h.seated flight (mem_of_mem_eraseIdx hflight), h.rows⟩
  | answer =>
    cases hstep
    exact ⟨h.seated, h.rows⟩
  | store =>
    obtain ⟨snapshot, -, hstep⟩ := bind_eq_some_iff.mp hstep
    obtain ⟨system, hsystem, rfl⟩ := map_eq_some_iff.mp hstep
    exact h.loaded hsystem
  | miss =>
    obtain ⟨_, -, rfl⟩ := map_eq_some_iff.mp hstep
    exact ⟨h.seated, h.rows⟩
  | other event =>
    simp only [Dated.step] at hstep
    split at hstep
    · next hundated =>
      obtain ⟨system, hsystem, rfl⟩ := map_eq_some_iff.mp hstep
      refine ⟨fun flight hflight => decide_eq_true (watches_of_moves (moves_of_step hsystem)
        (of_decide_eq_true (h.seated flight hflight))), fun market id => ?_⟩
      dsimp only [Dated.rowsOf]
      rw [rt_of_undated hundated hsystem]
      exact h.rows market id
    · cases hstep

/-- In a run whose answers and deliveries are in order, the rows of an instrument are at every point what
the writes so far leave, the writes come from states of the venue that never get older, and later ones are
only added: the state of the venue behind the rows never goes back. -/
theorem stored_state_never_older {before after : List DatedEvent}
    (horder : Along (Dated.step account) Dated.InOrder {} (before ++ after))
    (hbefore : run (Dated.step account) {} before = some d)
    (hafter : run (Dated.step account) d after = some d') (market : Market) (id : String) :
    d.stamps market id ≤ d'.stamps market id ∧ d.writes market id <+: d'.writes market id ∧
      ((d'.writes market id).Pairwise fun a b => a.version ≤ b.version) ∧
      (d'.rowsOf market id).Perm (replay account market id (d'.writes market id)) := by
  obtain ⟨hfirst, hlater⟩ := along_append.mp horder
  have hkeep : ∀ s event s', (s.Current ∧ s.Ordered ∧ s.Follows account) → s.InOrder event →
      Dated.step account s event = some s' → s'.Current ∧ s'.Ordered ∧ s'.Follows account :=
    fun s event s' h hok hstep =>
      ⟨h.1.step hok hstep, (h.2.1.step h.1 hstep).1, h.2.2.step hstep⟩
  have hd := invariant_along (fun s => s.Current ∧ s.Ordered ∧ s.Follows account) hkeep
    ⟨current_empty, fun _ _ => Pairwise.nil, nofun, fun _ _ => .nil⟩ hfirst hbefore
  have hend := invariant_along (fun s => (s.Current ∧ s.Ordered ∧ s.Follows account) ∧
      d.stamps market id ≤ s.stamps market id ∧ d.writes market id <+: s.writes market id)
    (fun s event s' h hok hstep => ⟨hkeep s event s' h.1 hok hstep,
      h.2.1.trans (h.1.1.stamps_le hstep market id),
      h.2.2.trans ((h.1.2.1.step h.1.1 hstep).2 market id)⟩)
    ⟨hd, Nat.le_refl _, prefix_rfl⟩ (hlater d hbefore) hafter
  obtain ⟨⟨-, hordered, hfollows⟩, hstamps, hprefix⟩ := hend
  exact ⟨hstamps, hprefix, hordered market id, hfollows.rows market id⟩

namespace Scenario

def btc:List Position:=[{nativeSymbol:="BTCUSDT",quantity:={coefficient:=2}}]
def closing:PositionEvent:={kind:=.snapshot}

def inOrder:List DatedEvent:=
 [.other .start,.answer perp btc,.store 0,.produce perp "BTCUSDT" closing [0],.deliver 0]

def closed:List DatedEvent:=[.other .start,.answer perp btc,.produce perp "BTCUSDT" closing [0],.deliver 0]

end Scenario

theorem stored_state_never_older_binance :
  Along (Dated.step Scenario.binance) Dated.InOrder {} (Scenario.inOrder++[.answer Scenario.perp [],.store 0])∧
   ∃ d d',run (Dated.step Scenario.binance) {} Scenario.inOrder=some d∧
    run (Dated.step Scenario.binance) d [.answer Scenario.perp [],.store 0]=some d'∧
    d.stamps Scenario.perp "BTCUSDT" = 1∧
    d.stamps Scenario.perp "BTCUSDT" ≤ d'.stamps Scenario.perp "BTCUSDT" := by
 have hord:Along (Dated.step Scenario.binance) Dated.InOrder {}
  (Scenario.inOrder++[.answer Scenario.perp [],.store 0]):=by decide
 have h:∃ d d',run (Dated.step Scenario.binance) {} Scenario.inOrder=some d∧
  run (Dated.step Scenario.binance) d [.answer Scenario.perp [],.store 0]=some d'∧
  d.stamps Scenario.perp "BTCUSDT" = 1:=⟨_,_,rfl,rfl,by decide⟩
 obtain ⟨d,d',hbef,haf,hstam⟩:=h
 exact ⟨hord,d,d',hbef,haf,hstam,(stored_state_never_older hord hbef haf _ _).1⟩

theorem closed_position_restored :
 ∃ d d',run (Dated.step Scenario.binance) {} Scenario.closed=some d∧
  run (Dated.step Scenario.binance) d [.store 0]=some d'∧d.system.rt.positions Scenario.perp=[]∧
  d'.system.rt.positions Scenario.perp≠[]∧
  d'.stamps Scenario.perp "BTCUSDT" < d.stamps Scenario.perp "BTCUSDT" :=
 ⟨_,_,rfl,rfl,by decide,by decide,by decide⟩

end BolterTrader.AccountStream
