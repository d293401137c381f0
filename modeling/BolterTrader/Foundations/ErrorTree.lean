import Mathlib.Data.List.Basic

/-! Trees of wrapped errors and the two ways a caller inspects them. -/
namespace BolterTrader.Foundations
open List

inductive ErrorTree (α:Type) where
 | node (value:α) (causes:List (ErrorTree α))

namespace ErrorTree
variable {α β:Type}

def value:ErrorTree α→α
 | node v _=>v

def leaf (v:α):ErrorTree α:=node v []
def wrap (v:α) (cause:ErrorTree α):ErrorTree α:=node v [cause]

mutual
def as? (select:α→Option β):ErrorTree α→Option β
 | node v causes=>
  match select v with
  | some b=>some b
  | none=>asAny? select causes

def asAny? (select:α→Option β):List (ErrorTree α)→Option β
 | []=>none
 | cause::causes=>
  match as? select cause with
  | some b=>some b
  | none=>asAny? select causes
end

mutual
def is (answers:α→Bool):ErrorTree α→Bool
 | node v causes=>answers v || isAny answers causes

def isAny (answers:α→Bool):List (ErrorTree α)→Bool
 | []=>false
 | cause::causes=>is answers cause || isAny answers causes
end

mutual
def chain:ErrorTree α→List α
 | node v causes=>v::chains causes

def chains:List (ErrorTree α)→List α
 | []=>[]
 | cause::causes=>chain cause++chains causes
end

/-! ## Inspection is a search of the chain -/

mutual
theorem as?_eq_findSome? (select:α→Option β):(tree:ErrorTree α) →
  tree.as? select=tree.chain.findSome? select
 | node v css=>by
  rw[as?,chain,List.findSome?_cons,asAny?_eq_findSome? select css]
  cases select v<;>rfl

theorem asAny?_eq_findSome? (select:α→Option β):(css:List (ErrorTree α)) →
  asAny? select css=(chains css).findSome? select
 | []=>rfl
 | cause::css=>by
  rw[asAny?,chains,List.findSome?_append,as?_eq_findSome? select cause,asAny?_eq_findSome? select css]
  cases cause.chain.findSome? select<;>rfl
end

mutual
theorem is_eq_any (anss:α→Bool):(tree:ErrorTree α) →
  tree.is anss=tree.chain.any anss
 | node v css=>by
  rw[is,chain,any_cons,isAny_eq_any anss css]

theorem isAny_eq_any (anss:α→Bool):(css:List (ErrorTree α)) →
  isAny anss css=(chains css).any anss
 | []=>rfl
 | cause::css=>by
  rw[isAny,chains,any_append,is_eq_any anss cause,isAny_eq_any anss css]
end

theorem is_iff (anss:α→Bool) (tree:ErrorTree α):
 tree.is anss=true ↔ ∃ v∈tree.chain,anss v=true:=by
 rw[is_eq_any,any_eq_true]

theorem as?_eq_none_iff (select:α→Option β) (tree:ErrorTree α):
 tree.as? select=none ↔ ∀ v∈tree.chain,select v=none:=by
 rw[as?_eq_findSome?,List.findSome?_eq_none_iff]

theorem exists_mem_of_as? {select:α→Option β} {tree:ErrorTree α} {b:β}
 (h:tree.as? select=some b):∃ v∈tree.chain,select v=some b:=by
 rw[as?_eq_findSome?] at h
 exact exists_of_findSome?_eq_some h

/-! ## The two shapes callers build -/

@[simp] theorem as?_leaf (select:α→Option β) (v:α):(leaf v).as? select=select v:=by
 rw[leaf,as?,asAny?]
 cases select v<;>rfl

@[simp] theorem is_leaf (anss:α→Bool) (v:α):(leaf v).is anss=anss v:=by
 simp[leaf,is,isAny]

theorem as?_wrap (select:α→Option β) (v:α) (cau:ErrorTree α):
 (wrap v cau).as? select=(select v).or (cau.as? select):=by
 rw[wrap,as?,asAny?,asAny?]
 grind

theorem is_wrap (anss:α→Bool) (v:α) (cause:ErrorTree α):
 (wrap v cause).is anss=(anss v || cause.is anss):=by
 simp[wrap,is,isAny]

end ErrorTree
end BolterTrader.Foundations
