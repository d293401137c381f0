import Mathlib.Data.List.Perm.Basic

/-! A map that several owners share, each with a list of its own keys: an owner replaces
its entries by deleting the keys it listed and storing the new ones. -/
namespace BolterTrader.Foundations
open List

structure Directory (ω κ α:Type*) where
 row:κ→Option α:=fun _=>none
 keys:ω→List κ:=fun _=>[]

namespace Directory
variable {ω κ α:Type*}

structure Owned (key:α→κ) (belongs:ω→α→Prop) (d:Directory ω κ α):Prop where
 row_of_listed:∀ {o k},k∈d.keys o → ∃ a,d.row k=some a∧belongs o a∧key a=k
 listed_of_row:∀ {k a},d.row k=some a → ∃ o,k∈d.keys o
 nodup:∀ o,(d.keys o).Nodup

variable {key:α→κ}

theorem Owned.owner_eq {belongs:ω→α→Prop} {d:Directory ω κ α} {owner other:ω} {k:κ}
 (h:Owned key belongs d) (hunique:∀ {a o o'},belongs o a→ belongs o' a→ o=o') (hk:k∈d.keys owner)
 (hk':k∈d.keys other):owner=other:=by
 obtain ⟨a,hrow,ha,-⟩:=h.row_of_listed hk
 obtain ⟨b,hrw',hb,-⟩:=h.row_of_listed hk'
 grind

variable [DecidableEq ω] [DecidableEq κ]

def deleteAll (row:κ→Option α) (old:List κ):κ→Option α:=old.foldl (fun row k=>Function.update row k none) row

def putAll (key:α→κ) (row:κ→Option α) (new:List α):κ→Option α:=
 new.foldl (fun row a=>Function.update row (key a) (some a)) row

theorem deleteAll_apply (row:κ→Option α) (old:List κ) (k:κ):
 deleteAll row old k=if k∈old then none else row k:=by
 induction old generalizing row with
 | nil=>rfl
 | cons head rest ih=>
  have hrest:deleteAll row (head::rest) k=if k∈rest then none else Function.update row head none k:=ih _
  grind

theorem putAll_of_notMem {new:List α} {k:κ} (h:k∉new.map key) (row:κ→Option α):
 putAll key row new k=row k:=by
 induction new generalizing row with
 | nil=>rfl
 | cons first rest ih=>
  have hne:k≠key first:=ne_of_not_mem_cons h
  exact (ih (not_mem_of_not_mem_cons h) _).trans (Function.update_of_ne hne _ row)

theorem putAll_of_mem {new:List α} (hnd:(new.map key).Nodup) {a:α} (h:a∈new) (row:κ→Option α):
 putAll key row new (key a)=some a:=by
 induction new generalizing row with
 | nil=>cases h
 | cons head rest ih=>
  obtain ⟨hnot,hrest⟩:=nodup_cons.mp hnd
  cases mem_cons.mp h with
  | inl heq=>
   subst heq
   exact (putAll_of_notMem hnot _).trans (Function.update_self _ _ row)
  | inr hmem=>exact ih hrest hmem _

def Keyed (key:α→κ) (row:κ→Option α):Prop:=∀ k a,row k=some a→ key a=k

omit [DecidableEq ω] in
theorem Keyed.deleteAll {row:κ→Option α} (h:Keyed key row) (old:List κ):Keyed key (deleteAll row old):=by
 intro k a hrow
 rw[deleteAll_apply] at hrow
 split at hrow
 · cases hrow
 · exact h k a hrow

omit [DecidableEq ω] in
theorem Keyed.putAll {row:κ→Option α} (h:Keyed key row) (new:List α):Keyed key (putAll key row new):=by
 induction new generalizing row with
 | nil=>exact h
 | cons head rest ih=>
  apply ih
  intro k a hrow
  simp only at hrow
  by_cases hk:k=key head
  · grind
  · rw[Function.update_of_ne hk] at hrow
    exact h k a hrow

def replace (key:α→κ) (d:Directory ω κ α) (owner:ω) (new:List α) (order:List κ):Directory ω κ α where
 row:=putAll key (deleteAll d.row (d.keys owner)) new
 keys:=Function.update d.keys owner order

def Fresh (key:α→κ) (d:Directory ω κ α) (owner:ω) (new:List α):Prop:=
 ∀ a∈new,∀ other,key a∈d.keys other→ other=owner

section
variable {key:α→κ} {belongs:ω→α→Prop} {d:Directory ω κ α} {owner other:ω} {new:List α}
 {order:List κ} {k:κ} {a:α}

theorem keys_replace_of_ne (h:other≠owner):(d.replace key owner new order).keys other=d.keys other:=by
 simp[replace,h]

theorem keys_replace_self:(d.replace key owner new order).keys owner=order:=by
 simp[replace]

theorem row_replace_of_mem (hnd:(new.map key).Nodup) (h:a∈new):
 (d.replace key owner new order).row (key a)=some a:=putAll_of_mem hnd h _

theorem row_replace_of_notMem (hnew:k∉new.map key) (hold:k∉d.keys owner):
 (d.replace key owner new order).row k=d.row k:=by
 have hdel:deleteAll d.row (d.keys owner) k=d.row k:=by rw[deleteAll_apply,if_neg hold]
 exact (putAll_of_notMem hnew _).trans hdel

theorem row_replace_of_old (hnew:k∉new.map key) (hold:k∈d.keys owner):
 (d.replace key owner new order).row k=none:=by
 have hdel:deleteAll d.row (d.keys owner) k=none:=by rw[deleteAll_apply,if_pos hold]
 exact (putAll_of_notMem hnew _).trans hdel

omit [DecidableEq ω] in
theorem Owned.row_replace (h:Owned key belongs d) (hunique:∀ {a o o'},belongs o a→ belongs o' a→ o=o')
 (hfr:Fresh key d owner new) (hoth:other≠owner) (hk:k∈d.keys other):
 putAll key (deleteAll d.row (d.keys owner)) new k=d.row k:=by
 have hnew:k∉new.map key:=by
  intro hmem
  obtain ⟨a,ha,rfl⟩:=mem_map.mp hmem
  exact hoth (hfr a ha other hk)
 have hold:k∉d.keys owner:=fun hmem=>hoth (h.owner_eq hunique hk hmem)
 rw[putAll_of_notMem hnew,deleteAll_apply,if_neg hold]

theorem Owned.replace (h:Owned key belongs d) (hunique:∀ {a o o'},belongs o a→ belongs o' a→ o=o')
 (hnew:∀ a∈new,belongs owner a) (hord:order.Perm (new.map key)) (hnd:(new.map key).Nodup)
 (hfr:Fresh key d owner new):Owned key belongs (d.replace key owner new order):=by
 refine ⟨?_,?_,?_⟩
 · intro o k hk
   by_cases ho:o=owner
   · grind [keys_replace_self,row_replace_of_mem,mem_map.mp]
   · rw[keys_replace_of_ne ho] at hk
     obtain ⟨a,hrow,ha,hkey⟩:=h.row_of_listed hk
     exact ⟨a,(h.row_replace hunique hfr ho hk).trans hrow,ha,hkey⟩
 · intro k a hrow
   by_cases hmem:k∈new.map key
   · refine ⟨owner,?_⟩
     rw[keys_replace_self,hord.mem_iff]
     exact hmem
   · have hold:k∉d.keys owner:=by
      intro hold
      rw[row_replace_of_old hmem hold] at hrow
      cases hrow
     rw[row_replace_of_notMem hmem hold] at hrow
     obtain ⟨o,ho⟩:=h.listed_of_row hrow
     have hne:o≠owner:=by
      rintro rfl
      exact hold ho
     refine ⟨o,?_⟩
     rw[keys_replace_of_ne hne]
     exact ho
 · intro o
   by_cases ho:o=owner
   · grind [keys_replace_self]
   · rw[keys_replace_of_ne ho]
     exact h.nodup o

theorem fresh_of_listed (belongs:ω→α→Prop) (hunique:∀ {a o o'},belongs o a→ belongs o' a→ o=o')
 (hnew:∀ a∈new,belongs owner a) (hnd:(new.map key).Nodup) (order:List κ)
 (hlis:∀ o,∀ k∈(d.replace key owner new order).keys o,
  ∃ a,(d.replace key owner new order).row k=some a∧belongs o a):Fresh key d owner new:=by
 intro a ha other hk
 by_contra hne
 have hkeys:(d.replace key owner new order).keys other=d.keys other:=keys_replace_of_ne hne
 rw[←hkeys] at hk
 obtain ⟨b,hrow,hb⟩:=hlis other (key a) hk
 cases hrow.symm.trans (row_replace_of_mem hnd ha)
 grind

end
end Directory
end BolterTrader.Foundations
