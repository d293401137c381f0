import BolterTrader.Foundations.KeyedRows

/-! A map from keys to values, kept as a list of entries with different keys. -/
namespace BolterTrader.Foundations
open KeyedRows

structure Table (κ α:Type*) where
 rows:List (κ×α):=[]
 unique:Unique Prod.fst rows:=by exact List.nodup_nil

namespace Table
variable {κ α:Type*} [DecidableEq κ] {t:Table κ α}

def get (t:Table κ α) (k:κ):Option α:=(last? Prod.fst t.rows k).map Prod.snd
def put (t:Table κ α) (k:κ) (a:α):Table κ α:=⟨KeyedRows.put Prod.fst t.rows (k,a),t.unique.put (k,a)⟩
def erase (t:Table κ α) (k:κ):Table κ α:=⟨KeyedRows.erase Prod.fst t.rows k,t.unique.erase k⟩

def restore (t:Table κ α) (k:κ):Option α→Table κ α
 | some a=>t.put k a
 | none=>t.erase k

theorem mem_rows {k:κ} {a:α}:(k,a)∈t.rows ↔ t.get k=some a:=by
 unfold get
 constructor
 · intro h
   have hlast:last? Prod.fst t.rows k=some (k,a):=t.unique.last?_eq_some_iff.mpr ⟨h,rfl⟩
   rw[hlast]
   rfl
 · intro h
   obtain ⟨row,hlast,rfl⟩:=Option.map_eq_some_iff.mp h
   obtain ⟨hmem,rfl⟩:=t.unique.last?_eq_some_iff.mp hlast
   exact hmem

theorem get_put (t:Table κ α) (k other:κ) (a:α):
 (t.put k a).get other=if k=other then some a else t.get other:=by
 unfold get put
 rw[last?_put]
 split<;>rfl

theorem get_erase (t:Table κ α) (k other:κ):(t.erase k).get other=if other=k then none else t.get other:=by
 unfold get erase
 rw[last?_erase]
 split<;>rfl

@[simp] theorem get_put_self (t:Table κ α) (k:κ) (a:α):(t.put k a).get k=some a:=by
 rw[get_put,if_pos rfl]

theorem get_put_of_ne {k other:κ} (h:other≠k) (t:Table κ α) (a:α):(t.put k a).get other=t.get other:=by
 rw[get_put,if_neg (Ne.symm h)]

@[simp] theorem get_erase_self (t:Table κ α) (k:κ):(t.erase k).get k=none:=by
 rw[get_erase,if_pos rfl]

theorem get_erase_of_ne {k other:κ} (h:other≠k) (t:Table κ α):(t.erase k).get other=t.get other:=by
 rw[get_erase,if_neg h]

@[simp] theorem get_restore_self (t:Table κ α) (k:κ) (previous:Option α):(t.restore k previous).get k=previous:=by
 cases previous with
 | some a=>exact get_put_self t k a
 | none=>exact get_erase_self t k

theorem get_restore_of_ne {k other:κ} (h:other≠k) (t:Table κ α) (prv:Option α):
 (t.restore k prv).get other=t.get other:=by
 cases prv with
 | some a=>exact get_put_of_ne h t a
 | none=>exact get_erase_of_ne h t

end Table
end BolterTrader.Foundations
