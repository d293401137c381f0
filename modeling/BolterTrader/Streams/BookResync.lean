import BolterTrader.Foundations.Transition

/-! The resync mark of the public backends (`exchange/internal/factoryclient/binance_public_websocket.go`,
`okx_public_websocket.go`): one flag for all the order books of a backend, set while a
reconnect is reported and taken by the next book event that converts. -/
namespace BolterTrader.Streams.BookResync
open Foundations.Transition List Option

inductive Backend where
 | binanceSpot | binancePerp | okx

def Backend.marksAtStart:Backend→Bool
 | .binanceSpot | .binancePerp=>false
 | .okx=>true

structure Feed where
 resyncNextBook:Bool:=false
 recovery:Option ℕ:=none
 marked:Bool:=false
 due:List ℕ:=[]

inductive Event where
 | reconnect
 | markResync
 | recovered
 | book (id:ℕ)

def step (backend:Backend) (books:List ℕ) (f:Feed):Event→Option Feed
 | .reconnect=>
  if f.recovery.isSome then none
  else
   some {f with
    resyncNextBook:=f.resyncNextBook || backend.marksAtStart
    recovery:=some (if backend.marksAtStart then 0 else books.length)
    marked:=backend.marksAtStart}
 | .markResync=>
  match f.recovery with
  | some (left+1)=>some {f with resyncNextBook:=true,recovery:=some left,marked:=true}
  | _=>none
 | .recovered=>if f.recovery=some 0 then some {f with recovery:=none,marked:=false,due:=books} else none
 | .book id=>if id∈books then some {f with resyncNextBook:=false,due:=f.due.filter (· ≠ id)} else none

def Right (books:List ℕ) (f:Feed):Event→Prop
 | .book id=>id∈books→(f.resyncNextBook=true ↔ id∈f.due)
 | _=>True

def Alone (books:List ℕ) (f:Feed):Event→Prop
 | .book id=>id∈books→ f.marked=false∧∀ other∈f.due,other=id
 | _=>True

structure Inv (books:List ℕ) (f:Feed):Prop where
 marked:f.marked=true→ f.resyncNextBook=true
 unmarked:f.marked=false→ books≠[]→(f.resyncNextBook=true ↔ f.due≠[])
 idle:f.recovery=none→ f.marked=false
 ready:f.recovery=some 0→ books≠[]→ f.marked=true
 listed:∀ id∈f.due,id∈books

section
variable {backend:Backend} {books:List ℕ} {f next:Feed} {event:Event} {id:ℕ}

theorem Inv.step (h:Inv books f) (halo:Alone books f event) (hstep:step backend books f event=some next):
 Inv books next:=by
 cases event with
 | reconnect=>
  obtain ⟨hidle,hnext⟩:=ite_none_left_eq_some.mp hstep
  cases hnext
  have hunm:=h.unmarked (h.idle (by simpa using hidle))
  cases hmrk : backend.marksAtStart with
  | true=>exact ⟨fun _=>by simp,nofun,nofun,fun _ _=>rfl,h.listed⟩
  | false=>
   refine ⟨nofun,fun _ hne=>by simpa using hunm hne,nofun,?_,h.listed⟩
   grind
 | markResync=>
  simp only[BookResync.step] at hstep
  split at hstep<;>cases hstep
  exact ⟨fun _=>rfl,nofun,nofun,fun _ _=>rfl,h.listed⟩
 | recovered=>
  obtain ⟨hzero,hnext⟩:=ite_none_right_eq_some.mp hstep
  cases hnext
  refine ⟨nofun,fun _ hne=>?_,fun _=>rfl,nofun,fun _ hid=>hid⟩
  simpa[h.marked (h.ready hzero hne)] using hne
 | book=>
  obtain ⟨hid,hnext⟩:=ite_none_right_eq_some.mp hstep
  cases hnext
  obtain ⟨hunm,hos⟩:=halo hid
  refine ⟨fun hmar=>?_,fun _ _=>by simpa using hos,h.idle,h.ready,fun other hoth=>?_⟩
  all_goals grind

theorem Inv.right (h:Inv books f) (halo:Alone books f event):Right books f event:=by
 cases event with
 | reconnect | markResync | recovered=>trivial
 | book=>
  intro hid
  obtain ⟨hunm,hos⟩:=halo hid
  rw[h.unmarked hunm (ne_nil_of_mem hid)]
  grind [exists_mem_of_ne_nil,ne_nil_of_mem]

theorem inv_new (books:List ℕ):Inv books {}:=⟨nofun,fun _ _=>by simp,fun _=>rfl,nofun,nofun⟩

theorem step_book (hid:id∈books):
 step backend books f (.book id)=some {f with resyncNextBook:=false,due:=f.due.filter (· ≠ id)}:=if_pos hid

theorem wrong_after_taken_mark (h:Inv books f) (hid:id∈books) (htaken:¬Alone books f (.book id)):
 ∃ later,¬Along (step backend books) (Right books) f (.book id::later):=by
 have hbre:f.marked=true∨∃ other∈f.due,other≠id:=by
  by_contra hnone
  simp only[not_or,not_exists,not_and,not_not,Bool.not_eq_true] at hnone
  exact htaken fun _=>hnone
 cases hmar : f.marked with
 | true=>
  cases hrec : f.recovery with
  | none=>
   rw[h.idle hrec] at hmar
   cases hmar
  | some left=>
   cases left with
   | zero=>
    -- the flag is gone when the recovery ends
    refine ⟨[.recovered,.book id],fun halo=>?_⟩
    have hlast:=((halo.2 _ (step_book hid)).2 _ (if_pos hrec)).1 hid
    grind
   | succ left=>
    -- the next mark is taken by a book that has had its event
    have hstep:BookResync.step backend books
      {f with resyncNextBook:=false,due:=f.due.filter (· ≠ id)} .markResync =
      some {f with resyncNextBook:=true,due:=f.due.filter (· ≠ id),recovery:=some left,marked:=true}:=by
     simp[BookResync.step,hrec]
    refine ⟨[.markResync,.book id],fun halo=>?_⟩
    have hlast:=((halo.2 _ (step_book hid)).2 _ hstep).1 hid
    simpa using hlast.mp rfl
 | false=>
  obtain hbre | ⟨other,hoth,hne⟩:=hbre
  · rw[hmar] at hbre
    cases hbre
  · refine ⟨[.book other],fun halo=>?_⟩
    have hlast:=(halo.2 _ (step_book hid)).1 (h.listed other hoth)
    grind

end

/-- A book is marked as resynchronised exactly once for each recovery. -/
theorem resync_marks_of_alone (backend:Backend) (books:List ℕ) (events:List Event)
 (halone:Along (step backend books) (Alone books) {} events):
 Along (step backend books) (Right books) {} events:=
 along_of_invariant (Inv books) (fun _ _ _ h halone hstep=>h.step halone hstep) (fun _ _ h halone=>h.right halone)
  (inv_new books) halone

instance (books:List ℕ) (f:Feed):(event:Event)→Decidable (Alone books f event)
 | .book _=>inferInstanceAs (Decidable (_→_))
 | .reconnect | .markResync | .recovered=>.isTrue trivial

instance (books:List ℕ) (f:Feed):(event:Event)→Decidable (Right books f event)
 | .book _=>inferInstanceAs (Decidable (_→_))
 | .reconnect | .markResync | .recovered=>.isTrue trivial

theorem single_book_marked :
 Along (step .binanceSpot [0]) (Right [0]) {} [.book 0,.reconnect,.markResync,.recovered,.book 0,.book 0]:=
 resync_marks_of_alone .binanceSpot [0] _ (by decide)

theorem second_book_unmarked :
 ¬Along (step .binanceSpot [0,1]) (Right [0,1]) {}
  [.reconnect,.markResync,.markResync,.recovered,.book 0,.book 1]∧
 ¬Along (step .binancePerp [0,1]) (Right [0,1]) {}
  [.reconnect,.markResync,.markResync,.recovered,.book 0,.book 1]∧
 ¬Along (step .okx [0,1]) (Right [0,1]) {} [.reconnect,.recovered,.book 0,.book 1]:=
 ⟨by decide,by decide,by decide⟩

end BolterTrader.Streams.BookResync
