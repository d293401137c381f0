import BolterTrader.Streams.OrderBook
import Mathlib.Data.Set.Card

/-! The book feed of the gateway (`pumpBook` in `gateway/market/feeds.go`): a local book
kept from snapshots, full images and deltas, and its best levels sent on a ticker or with
the event that replaced it. -/
namespace BolterTrader.Gateway.BookFeed
open Foundations Foundations.Transition Foundations.KeyedRows Exchange Streams List Option

def bookDepth:ℕ:=50
def patchSide (side levels:List BookLevel):List BookLevel:=patchBookSide side levels
def replaceSide (levels:List BookLevel):List BookLevel:=patchSide [] levels

structure Level where
 price:String
 quantity:String
 deriving DecidableEq

abbrev Sorts:Type:=∀ descending,SliceSort (levelLess descending)

def topLevels (sort:Sorts) (side:List BookLevel) (descending:Bool):List Level:=
 (((sort descending).sort side).take bookDepth).map fun level=>⟨level.price.toText,level.quantity.toText⟩

structure Message where
 bids:List Level
 asks:List Level
 time:Int

structure Pump where
 bids:List BookLevel:=[]
 asks:List BookLevel:=[]
 observed:Timestamp:=none
 started:Bool:=false
 dirty:Bool:=false

def Pump.flush (sort:Sorts) (p:Pump):Pump×Option Message:=
 if !p.started || !p.dirty then (p,none)
 else ({p with dirty:=false},some ⟨topLevels sort p.bids true,topLevels sort p.asks false,p.observed.unixMilli⟩)

inductive Input where
 | done
 | tick
 | failure (err:Option String)
 | status (closed:Bool)
 | ended
 | event (event:BookEvent) (now:Int)

def Pump.take (p:Pump) (event:BookEvent):Option Pump:=
 match event.kind with
 | .snapshot | .full=>some {p with bids:=replaceSide event.bids,asks:=replaceSide event.asks,started:=true}
 | .delta=>
  if !p.started then none
  else some {p with bids:=patchSide p.bids event.bids,asks:=patchSide p.asks event.asks}
 | .unset=>some p

def turn (sort:Sorts) (p:Pump):Input→Option (Pump×Option Message)
 | .done | .ended | .failure (some _) | .status true=>none
 | .failure none | .status false=>some (p,none)
 | .tick=>some (p.flush sort)
 | .event event now=>
  match p.take event with
  | none=>some (p,none)
  | some taken=>
   let marked:={taken with observed:=some (event.time.getD now),dirty:=true}
   some (if event.kind≠.delta then marked.flush sort else (marked,none))

def step (sort:Sorts) (p:Pump) (input:Input):Option Pump:=(turn sort p input).map Prod.fst

/-! ## What a message shows -/

structure Shows (descending:Bool) (side:Levels) (rows:List Level) (levels:List BookLevel):Prop where
 rows_eq:rows=levels.map fun level=>⟨level.price.toText,level.quantity.toText⟩
 ordered:levels.Pairwise fun a b=>better descending a.at b.at
 held:∀ level∈levels,side level.at=some level
 count:levels.length=min bookDepth {price | (side price).isSome}.ncard
 best:∀ price level,side price=some level→ level∈levels∨
  levels.length=bookDepth∧∀ shown∈levels,better descending shown.at price

def reference (inputs:List Input):Option Book:=
 (inputs.filterMap fun | .event event _=>some event | _=>none).foldl foldBook none

section
variable {side:List BookLevel} (h:Unique BookLevel.at side) (sort:Sorts) (descending:Bool)
include h

theorem ncard_levelAt:{price | (levelAt side price).isSome}.ncard=side.length:=by
 have hset: {price | (levelAt side price).isSome}=((side.map BookLevel.at).toFinset : Set ℚ):=by
  ext price
  simp only[Set.mem_ofPred_eq,Finset.mem_coe,List.mem_toFinset,List.mem_map,isSome_iff_exists]
  exact exists_congr fun lv=>h.last?_eq_some_iff
 rw[hset,Set.ncard_coe_finset,toFinset_card_of_nodup h,length_map]

theorem topLevels_shows:Shows descending (levelAt side) (topLevels sort side descending)
 (((sort descending).sort side).take bookDepth):=by
 have hstr:=sorted_strictly h sort descending
 have hperm:=(sort descending).perm side
 refine ⟨rfl,hstr.sublist (take_sublist _ _),?_,?_,?_⟩
 · intro lv hlev
   exact h.last?_eq_some_iff.mpr ⟨hperm.subset (mem_of_mem_take hlev),rfl⟩
 · rw[length_take,hperm.length_eq,ncard_levelAt h]
 · intro px lv hlev
   obtain ⟨hmem,rfl⟩:=h.last?_eq_some_iff.mp hlev
   have hsor:=hperm.mem_iff.mpr hmem
   rw[←take_append_drop bookDepth ((sort descending).sort side)] at hsor hstr
   obtain hsho | hleft:=mem_append.mp hsor
   · exact .inl hsho
   · -- a level is left over only behind a full page
     have hlen:=length_pos_of_mem hleft
     grind

end

/-! ## The local book and the reference book -/

theorem unique_patchSide {side:List BookLevel} (h:Unique BookLevel.at side) (lvs:List BookLevel):
 Unique BookLevel.at (patchSide side lvs):=by
 induction lvs generalizing side with
 | nil=>exact h
 | cons lv rest ih=>
  apply ih
  unfold patchLevel
  split
  · rw[erase_key]
    exact h.erase lv.at
  · rw[put_key]
    exact h.put lv

structure Follows (p:Pump) (book:Option Book):Prop where
 bids:Unique BookLevel.at p.bids
 asks:Unique BookLevel.at p.asks
 book_eq:book=if p.started then some ⟨levelAt p.bids,levelAt p.asks⟩ else none

theorem Follows.take {p taken:Pump} {book:Option Book} {ev:BookEvent} (h:Follows p book)
 (htake:p.take ev=some taken):Follows taken (foldBook book ev):=by
 have hnil:Unique BookLevel.at []:=nodup_nil
 unfold Pump.take at htake
 unfold foldBook
 cases hkind : ev.kind with
 | unset=>
  grind
 | snapshot | full=>
  rw[hkind] at htake
  cases htake
  refine ⟨unique_patchSide hnil _,unique_patchSide hnil _,?_⟩
  simp only[if_true,replaceSide,patchSide,levelAt_patchBookSide]
  rfl
 | delta=>
  rw[hkind] at htake
  obtain ⟨hstd,htake⟩:=ite_none_left_eq_some.mp htake
  cases htake
  have hstd:p.started=true:=by simpa using hstd
  refine ⟨unique_patchSide h.bids _,unique_patchSide h.asks _,?_⟩
  rw[h.book_eq]
  simp only[hstd,if_true,map_some,patchSide,levelAt_patchBookSide]
  rfl

theorem Follows.ignored {p:Pump} {book:Option Book} {ev:BookEvent} (h:Follows p book)
 (htake:p.take ev=none):foldBook book ev=book:=by
 unfold Pump.take at htake
 unfold foldBook
 cases hkind : ev.kind with
 | unset | snapshot | full=>simp[hkind] at htake
 | delta=>
  have hidle:p.started=false:=by simpa[hkind] using htake
  rw[h.book_eq,hidle]
  rfl

theorem Follows.flush {sort:Sorts} {p:Pump} {book:Option Book} (h:Follows p book):
 Follows (p.flush sort).1 book∧∀ msg∈(p.flush sort).2,∃ shown bids asks,book=some shown∧
  Shows true shown.bids msg.bids bids∧Shows false shown.asks msg.asks asks:=by
 unfold Pump.flush
 split
 · exact ⟨h,nofun⟩
 · next hrea=>
   refine ⟨⟨h.bids,h.asks,h.book_eq⟩,?_⟩
   intro msg hmsg
   cases hmsg
   have hstd:p.started=true:=by
    grind
   exact ⟨_,_,_,by rw[h.book_eq,if_pos hstd],topLevels_shows h.bids sort true,
    topLevels_shows h.asks sort false⟩

theorem Follows.turn {sort:Sorts} {p:Pump} {inputs:List Input} {inp:Input}
 {outcome:Pump×Option Message} (h:Follows p (reference inputs)) (hturn:turn sort p inp=some outcome):
 Follows outcome.1 (reference (inputs++[inp]))∧
  ∀ msg∈outcome.2,∃ shown bids asks,reference (inputs++[inp])=some shown∧
   Shows true shown.bids msg.bids bids∧Shows false shown.asks msg.asks asks:=by
 have hoth (hnone:(inputs++[inp]).filterMap (fun | .event event _=>some event | _=>none) =
  inputs.filterMap fun | .event event _=>some event | _=>none):
  reference (inputs++[inp])=reference inputs:=by rw[reference,hnone,reference]
 cases inp with
 | done | ended=>cases hturn
 | failure err=>
  cases err with
  | some=>cases hturn
  | none=>
   cases hturn
   grind
 | status cls=>
  cases cls with
  | true=>cases hturn
  | false=>
   cases hturn
   grind
 | tick=>
  cases hturn
  rw[hoth (by simp)]
  exact h.flush
 | event event now=>
  have hfold:reference (inputs++[.event event now])=foldBook (reference inputs) event:=by
   simp[reference]
  rw[hfold]
  simp only[BookFeed.turn] at hturn
  cases htake : p.take event with
  | none=>
   rw[htake] at hturn
   cases hturn
   rw[h.ignored htake]
   exact ⟨h,nofun⟩
  | some taken=>
   have hmar:Follows {taken with observed:=some (event.time.getD now),dirty:=true}
    (foldBook (reference inputs) event):=⟨(h.take htake).bids,(h.take htake).asks,(h.take htake).book_eq⟩
   rw[htake] at hturn
   cases hturn
   split
   · exact hmar.flush
   · exact ⟨hmar,nofun⟩

theorem follows_run {sort:Sorts} {inp1:List Input} {p:Pump} (hrun:run (step sort) {} inp1=some p):
 Follows p (reference inp1):=by
 induction inp1 using List.reverseRecOn generalizing p with
 | nil=>
  cases hrun
  exact ⟨nodup_nil,nodup_nil,rfl⟩
 | append_singleton bef inp ih=>
  obtain ⟨btw,hbef,hlast⟩:=run_append_eq_some.mp hrun
  obtain ⟨next,hstep,hnil⟩:=run_cons_eq_some.mp hlast
  cases hnil
  obtain ⟨outcome,hturn,rfl⟩:=map_eq_some_iff.mp hstep
  exact ((ih hbef).turn hturn).1

/-- A message shows the best levels of the reference book. -/
theorem message_shows_reference (sort:Sorts) (inputs:List Input) (p:Pump)
 (hrun:run (step sort) {} inputs=some p) (input:Input) (next:Pump) (message:Message)
 (hturn:turn sort p input=some (next,some message)):
 ∃ book bids asks,reference (inputs++[input])=some book∧
  Shows true book.bids message.bids bids∧Shows false book.asks message.asks asks:=
 ((follows_run hrun).turn hturn).2 message rfl

theorem respelled_price_deleted :
 ∃ p next message,run (step sortLevels) {} [.event openingBook 0,.event bestBidGone 0]=some p∧
  turn sortLevels p .tick=some (next,some message)∧message.bids=[⟨"100.5","3"⟩]∧
  ∃ book bids asks,reference [.event openingBook 0,.event bestBidGone 0,.tick]=some book∧
   Shows true book.bids message.bids bids∧Shows false book.asks message.asks asks:=
 ⟨_,_,_,rfl,rfl,by decide,message_shows_reference sortLevels [.event openingBook 0,.event bestBidGone 0] _ rfl
  .tick _ _ rfl⟩

end BolterTrader.Gateway.BookFeed
