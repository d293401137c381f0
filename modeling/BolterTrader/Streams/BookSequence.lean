import BolterTrader.Streams.OrderBook

/-! The sequence check of the order-book contract against a connection that loses native
events (`exchange/internal/factoryclient/order_book_contract.go`). -/
namespace BolterTrader.Streams
open Foundations Exchange Adapters List

def BookEvent.number (event:BookEvent):ℕ:=(Decimal.nat? event.sequence.toList).getD 0

/-- Sequences are decimal and grow, and a delta names the sequence before it. -/
structure Sequenced (numbered:EventKind→Bool) (stream:List BookEvent):Prop where
 decimal:∀ event∈stream,numbered event.kind=true→(Decimal.nat? event.sequence.toList).isSome
 increasing:(stream.filter fun event=>numbered event.kind).Pairwise fun a b=>a.number<b.number
 predecessor:∀ position before event,stream[position]?=some before→ stream[position+1]?=some event →
  event.kind=.delta→ event.previous=before.sequence

/-! ## What arrives -/

def arrive (stream:List BookEvent) (state:OrderBookContract×List ℕ) (position:ℕ):
 OrderBookContract×List ℕ:=
 match stream[position]? with
 | none=>state
 | some event=>
  match state.1.accept event with
  | (next,.ok true)=>(next,state.2++[position])
  | (next,_)=>(next,state.2)

def arriveAll (contract:OrderBookContract) (stream:List BookEvent) (kept:List ℕ):OrderBookContract×List ℕ:=
 kept.foldl (arrive stream) (contract,[])

def ImageAt (stream:List BookEvent) (position:ℕ):Prop:=
 ∃ event∈stream[position]?,event.kind=.snapshot∨event.kind=.full

def DeltaAt (stream:List BookEvent) (position:ℕ):Prop:=∃ event∈stream[position]?,event.kind=.delta

def ChainedAt (stream:List BookEvent) (position:ℕ):Prop:=
 ∃ before∈stream[position-1]?,∃ event∈stream[position]?,event.kind=.delta∧event.previous=before.sequence

/-- The image at `first` and every delta after it up to `last` were accepted. -/
structure Unbroken (stream:List BookEvent) (accepted:List ℕ) (first last:ℕ):Prop where
 image:ImageAt stream first
 taken:first∈accepted
 le:first≤last
 deltas:∀ position,first<position→ position≤last→ position∈accepted∧ChainedAt stream position

variable {stream:List BookEvent}

theorem Unbroken.mono {acc more:List ℕ} {head last:ℕ} (h:Unbroken stream acc head last)
 (hsub:acc ⊆ more):Unbroken stream more head last:=
 ⟨h.image,hsub h.taken,h.le,fun position hlow hhigh=>
  ⟨hsub (h.deltas position hlow hhigh).1,(h.deltas position hlow hhigh).2⟩⟩

theorem Unbroken.snoc {acc:List ℕ} {head last:ℕ} (h:Unbroken stream acc head last)
 (hcha:ChainedAt stream (last+1)):Unbroken stream (acc++[last+1]) head (last+1):=by
 refine ⟨h.image,mem_append_left _ h.taken,h.le.trans (Nat.le_succ last),?_⟩
 intro position hlow hhigh
 obtain rfl | hold:=Nat.eq_or_lt_of_le hhigh
 · exact ⟨by simp,hcha⟩
 · obtain ⟨hmem,hpos⟩:=h.deltas position hlow (Nat.le_of_lt_succ hold)
   grind

/-! ## One arrival -/

theorem previous_of_accepted {cnt:OrderBookContract} {ev:BookEvent} (hdel:ev.kind=.delta)
 (hok:(cnt.accept ev).2=.ok true):
 GoText.trimSpace ev.previous=""∨cnt.sequence=""∨
  GoText.trimSpace ev.previous=cnt.sequence:=by
 unfold OrderBookContract.accept at hok
 grind

theorem arrive_cases (stream:List BookEvent) (cnt:OrderBookContract) (acc:List ℕ) (position:ℕ):
 arrive stream (cnt,acc) position=(cnt,acc)∨
 (∃ ev,stream[position]?=some ev∧(ev.kind=.snapshot∨ev.kind=.full)∧
  arrive stream (cnt,acc) position=(cnt.replace ev,acc++[position]))∨
 (∃ ev,stream[position]?=some ev∧ev.kind=.delta∧cnt.started=true∧
  (cnt.accept ev).2=.ok true∧
  arrive stream (cnt,acc) position=(cnt.patch ev,acc++[position])):=by
 unfold arrive
 cases hev : stream[position]? with
 | none=>exact .inl rfl
 | some ev=>
  grind [accept_cases]

section
variable {stream:List BookEvent} (hstream:Sequenced (fun _=>true) stream)
include hstream

theorem Sequenced.text {position:ℕ} {ev:BookEvent} (h:stream[position]?=some ev):
 ev.sequence≠""∧GoText.trimSpace ev.sequence=ev.sequence:=by
 obtain ⟨n,hn⟩:=Option.isSome_iff_exists.mp (hstream.decimal ev (mem_of_getElem? h) rfl)
 exact Decimal.trimSpace_of_nat? hn

theorem Sequenced.position_eq {i j:ℕ} {a b:BookEvent} (ha:stream[i]?=some a) (hb:stream[j]?=some b)
 (hseq:a.sequence=b.sequence):i=j:=by
 have hpai:stream.Pairwise fun a b=>a.number<b.number:=by simpa using hstream.increasing
 obtain ⟨hi,rfl⟩:=List.getElem?_eq_some_iff.mp ha
 obtain ⟨hj,rfl⟩:=List.getElem?_eq_some_iff.mp hb
 have hn:stream[i].number=stream[j].number:=by rw[BookEvent.number,hseq,BookEvent.number]
 grind [Nat.lt_trichotomy,pairwise_iff_getElem.mp]

theorem Sequenced.follows {cnt:OrderBookContract} {last position:ℕ} {held ev:BookEvent}
 (hheld:stream[last]?=some held) (hseq:cnt.sequence=held.sequence)
 (hev:stream[position]?=some ev) (hdel:ev.kind=.delta) (hlat:last<position)
 (hok:(cnt.accept ev).2=.ok true):position=last+1∧ChainedAt stream position:=by
 obtain ⟨bef,rfl⟩ : ∃ bef,position=bef+1:=⟨position-1,by omega⟩
 obtain ⟨hlen,-⟩:=List.getElem?_eq_some_iff.mp hev
 have hbef:stream[bef]?=some stream[bef]:=List.getElem?_eq_getElem (by omega)
 have hpre:=hstream.predecessor bef stream[bef] ev hbef hev hdel
 obtain ⟨hne,htrim⟩:=hstream.text hbef
 have hheNe:=(hstream.text hheld).1
 have hm:=previous_of_accepted hdel hok
 rw[hpre,htrim,hseq] at hm
 obtain hbla | hbla | hsame:=hm
 · exact absurd hbla hne
 · exact absurd hbla hheNe
 · have hpos:=hstream.position_eq hbef hheld hsame
   exact ⟨by omega,stream[bef],hbef,ev,hev,hdel,hpre⟩

end

/-! ## Any losses -/

structure Chained (stream:List BookEvent) (state:OrderBookContract×List ℕ):Prop where
 held:state.1.started=true → ∃ first last event,Unbroken stream state.2 first last∧last∈state.2∧
  stream[last]?=some event∧state.1.sequence=event.sequence
 deltas:∀ position∈state.2,DeltaAt stream position → ∃ first<position,Unbroken stream state.2 first position

theorem Chained.arrive {s0:OrderBookContract×List ℕ} {position:ℕ} (hstream:Sequenced (fun _=>true) stream)
 (h:Chained stream s0) (hlat:∀ ear∈s0.2,ear<position):
 Chained stream (arrive stream s0 position):=by
 obtain ⟨cnt,acc⟩:=s0
 have hsub:acc ⊆ acc++[position]:=fun _ hmem=>mem_append_left _ hmem
 have hmem:position∈acc++[position]:=by simp
 have hold (other:ℕ) (hoth:other∈acc) (hdel:DeltaAt stream other):
   ∃ head<other,Unbroken stream (acc++[position]) head other:=by
  obtain ⟨head,hfst,hunb⟩:=h.deltas other hoth hdel
  exact ⟨head,hfst,hunb.mono hsub⟩
 rcases arrive_cases stream cnt acc position with
  hsame | ⟨event,hev,hfull,hnext⟩ | ⟨event,hev,hdel,hstd,hok,hnext⟩
 · rw[hsame]
   exact h
 · rw[hnext]
   refine ⟨fun _=>⟨position,position,event,?_,hmem,hev,(hstream.text hev).2⟩,?_⟩
   · exact ⟨⟨event,hev,hfull⟩,hmem,le_rfl,fun _ hlow hhigh=>absurd hhigh (Nat.not_le.mpr hlow)⟩
   · intro other hoth hde
     obtain hoth | hoth:=mem_append.mp hoth
     · exact hold other hoth hde
     · cases mem_singleton.mp hoth
       obtain ⟨fnd,hfd,hkind⟩:=hde
       grind
 · rw[hnext]
   obtain ⟨head,last,held,hunb,hlast,hheld,hseq⟩:=h.held hstd
   obtain ⟨rfl,hcha⟩:=hstream.follows hheld hseq hev hdel (hlat last hlast) hok
   have hgro:=hunb.snoc hcha
   refine ⟨fun _=>⟨head,last+1,event,hgro,hmem,hev,(hstream.text hev).2⟩,?_⟩
   intro other hoth hde
   obtain hoth | hoth:=mem_append.mp hoth
   · exact hold other hoth hde
   · cases mem_singleton.mp hoth
     exact ⟨head,Nat.lt_succ_of_le hunb.le,hgro⟩

theorem arrive_subset {s0:OrderBookContract×List ℕ} (position:ℕ):
 (arrive stream s0 position).2 ⊆ s0.2++[position]:=by
 obtain ⟨cnt,acc⟩:=s0
 rcases arrive_cases stream cnt acc position with
  hsame | ⟨_,-,-,hnext⟩ | ⟨_,-,-,-,-,hnext⟩
 all_goals grind

theorem arriveAll_concat (cnt:OrderBookContract) (stream:List BookEvent) (bef:List ℕ) (position:ℕ):
 arriveAll cnt stream (bef++[position])=arrive stream (arriveAll cnt stream bef) position:=by
 rw[arriveAll,foldl_append]
 rfl

theorem arriveAll_subset (cnt:OrderBookContract) (stream:List BookEvent) (kept:List ℕ):
 (arriveAll cnt stream kept).2 ⊆ kept:=by
 induction kept using List.reverseRecOn with
 | nil=>exact Subset.refl _
 | append_singleton bef position ih=>
  grind [arriveAll_concat,arrive_subset]

theorem chained_arriveAll (hstream:Sequenced (fun _=>true) stream) (client:ClientMeta) (instrument:Instrument)
  {kept:List ℕ} (hkept:kept.Pairwise (· < ·)):
  Chained stream (arriveAll {client,instrument} stream kept):=by
 induction kept using List.reverseRecOn with
 | nil=>exact ⟨nofun,nofun⟩
 | append_singleton bef position ih=>
  obtain ⟨hbef,-,hlat⟩:=pairwise_append.mp hkept
  rw[arriveAll_concat]
  refine (ih hbef).arrive hstream fun ear hear=>?_
  exact hlat ear (arriveAll_subset _ _ _ hear) position (by simp)

/-- The accepted deltas follow one another, whatever is lost. -/
theorem accepted_deltas_contiguous (client:ClientMeta) (instrument:Instrument) (stream:List BookEvent)
  (hstream:Sequenced (fun _=>true) stream) (kept:List ℕ) (hkept:kept.Pairwise (· < ·)) (position:ℕ)
  (haccepted:position∈(arriveAll {client,instrument} stream kept).2) (hdelta:DeltaAt stream position):
  (∃ first<position,Unbroken stream (arriveAll {client,instrument} stream kept).2 first position)∧
  ∀ lost<position,lost∉kept → ∃ image,lost< image∧image<position∧ImageAt stream image∧
   image∈(arriveAll {client,instrument} stream kept).2:=by
 obtain ⟨first,hfst,hunb⟩:=(chained_arriveAll hstream client instrument hkept).deltas position haccepted hdelta
 refine ⟨⟨first,hfst,hunb⟩,?_⟩
 intro lost hlost hnot
 have hnoAc:lost∉(arriveAll {client,instrument} stream kept).2:=fun hmem=>hnot (arriveAll_subset _ _ _ hmem)
 refine ⟨first,?_,hfst,hunb.image,hunb.taken⟩
 rcases Nat.lt_trichotomy lost first with hlt | rfl | hgt
 · exact hlt
 · exact absurd hunb.taken hnoAc
 · exact absurd (hunb.deltas lost hgt hlost.le).1 hnoAc

namespace Scenario

def lighterBook (kind:EventKind) (sequence previous:String):BookEvent:=
 {kind,instrument:=ethSpot,sequence,previous,bids:=[⟨⟨101,0⟩,⟨1,0⟩⟩]}

def numberedStream:List BookEvent:=
 [lighterBook .snapshot "7" "",lighterBook .delta "8" "7",lighterBook .delta "9" "8",
  lighterBook .full "10" "",lighterBook .delta "12" "10"]

def unnumberedImage:List BookEvent:=
 [lighterBook .full "" "",lighterBook .delta "5" "",lighterBook .delta "6" "5"]

theorem numberedStream_sequenced:Sequenced (fun _=>true) numberedStream where
 decimal:=by decide
 increasing:=by decide
 predecessor:=by
  intro position bef ev hbef hev hdel
  match position with
  | 0 | 1 | 2 | 3=>
   cases hbef
   cases hev
   first | rfl | cases hdel
  | _+4=>cases hev

theorem unnumberedImage_sequenced:Sequenced (fun kind=>kind != .full) unnumberedImage where
 decimal:=by decide
 increasing:=by decide
 predecessor:=by
  intro position bef ev hbef hev hdel
  match position with
  | 0 | 1=>
   cases hbef
   cases hev
   rfl
  | _+2=>cases hev

end Scenario

theorem lost_delta_breaks_the_chain :
 (arriveAll {client:=⟨.lighter,.spot⟩,instrument:=ethSpot} Scenario.numberedStream [0,2,3,4]).2 = [0,3,4]∧
 ∃ image,1< image∧image<4∧ImageAt Scenario.numberedStream image∧
  image∈(arriveAll {client:=⟨.lighter,.spot⟩,instrument:=ethSpot} Scenario.numberedStream [0,2,3,4]).2:=
 ⟨by decide,(accepted_deltas_contiguous ⟨.lighter,.spot⟩ ethSpot Scenario.numberedStream
  Scenario.numberedStream_sequenced [0,2,3,4] (by decide) 4 (by decide) ⟨_,rfl,rfl⟩).2 1 (by decide) (by decide)⟩

theorem unnumbered_image_hides_loss :
 Sequenced (fun kind=>kind != .full) Scenario.unnumberedImage∧DeltaAt Scenario.unnumberedImage 1∧
 DeltaAt Scenario.unnumberedImage 2∧
 (arriveAll {client:=⟨.lighter,.spot⟩,instrument:=ethSpot} Scenario.unnumberedImage [0,2]).2=[0,2]:=
 ⟨Scenario.unnumberedImage_sequenced,⟨_,rfl,rfl⟩,⟨_,rfl,rfl⟩,by decide⟩

end BolterTrader.Streams
