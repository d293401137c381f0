import Mathlib.Algebra.BigOperators.Group.List.Basic
import Mathlib.Algebra.GroupWithZero.Nat

/-! Threads of a concurrent program as a list, each at a phase of its own, and what
changes in the list when one of them moves on. -/
namespace BolterTrader.Foundations.Threads
open List

variable {α:Type*} {threads:List α} {i:ℕ} {old new:α}

theorem getElem?_moved (h:threads[i]?=some old) (new:α) (j:ℕ):
 (threads.set i new)[j]?=if i=j then some new else threads[j]?:=by
 grind

theorem getElem?_started (threads:List α) (new:α) (j:ℕ):
 (threads++[new])[j]?=if j=threads.length then some new else threads[j]?:=by
 grind

theorem moved_cases (h:threads[i]?=some old) {j:ℕ} {thread:α} (hj:(threads.set i new)[j]?=some thread):
 j=i∧thread=new∨j≠i∧threads[j]?=some thread:=by
 grind

theorem started_cases {j:ℕ} {thread:α} (hj:(threads++[new])[j]?=some thread):
 j=threads.length∧thread=new∨j<threads.length∧threads[j]?=some thread:=by
 grind

theorem getElem?_moved_self (h:threads[i]?=some old) (new:α):(threads.set i new)[i]?=some new:=by
 rw[getElem?_moved h,if_pos rfl]

theorem getElem?_moved_ne (h:threads[i]?=some old) (new:α) {j:ℕ} (hj:j≠i):
 (threads.set i new)[j]?=threads[j]?:=by
 rw[getElem?_moved h,if_neg hj.symm]

theorem getElem?_started_of_some {j:ℕ} {thread:α} (hj:threads[j]?=some thread) (new:α):
 (threads++[new])[j]?=some thread:=by
 grind

theorem mem_of_split {bef aft:List α} (h:threads=bef++old::aft):old∈threads:=by
 grind

theorem mem_of_others {bef aft:List α} {th:α} (h:threads=bef++old::aft)
 (hthre:th∈bef++aft):th∈threads:=by
 grind

theorem mem_replaced {bef mid after:List α} {th:α} (h:th∈bef++(mid++after)):
 th∈mid∨th∈bef++after:=by
 grind

theorem exists_split (h:threads[i]?=some old):
 ∃ bef after,threads=bef++old::after∧bef.length=i∧
  (∀ new,threads.set i new=bef++new::after)∧threads.eraseIdx i=bef++after:=by
 induction threads generalizing i with
 | nil=>simp at h
 | cons th rest ih=>
  cases i with
  | zero=>
   have hold:th=old:=by simpa using h
   exact ⟨[],rest,by rw[hold]; rfl,rfl,fun _=>rfl,rfl⟩
  | succ=>
   grind

theorem forall_moved {P:α→Prop} (h:∀ thread∈threads,P thread) (hnew:P new):
 ∀ thread∈threads.set i new,P thread:=by
 grind

theorem countP_moved (p:α→Bool) (h:threads[i]?=some old) (new:α):
 (threads.set i new).countP p+(if p old then 1 else 0)=threads.countP p+if p new then 1 else 0:=by
 grind

theorem sum_moved (wgh:α→ℕ) (h:threads[i]?=some old) (new:α):
 ((threads.set i new).map wgh).sum+wgh old=(threads.map wgh).sum+wgh new:=by
 induction threads generalizing i with
 | nil=>simp at h
 | cons th rest ih=>
  cases i with
  | zero=>
   grind
  | succ i=>
   grind

end BolterTrader.Foundations.Threads
