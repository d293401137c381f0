import Mathlib.Data.List.Perm.Subperm

/-! Accounts of a queue that serves in order: what was accepted was started, still waits, or
was dropped, and nothing overtakes. -/
namespace BolterTrader.Foundations
open List

structure Ledger (α:Type*) where
 accepted:List α:=[]
 started:List α:=[]
 dropped:List α:=[]

namespace Ledger
variable {α:Type*} {l:Ledger α} {waiting:List α} {a:α}

def accept (l:Ledger α) (items:List α):Ledger α:={l with accepted:=l.accepted++items}
def start (l:Ledger α) (a:α):Ledger α:={l with started:=l.started++[a]}
def drop (l:Ledger α) (items:List α):Ledger α:={l with dropped:=l.dropped++items}

structure Balanced (l:Ledger α) (waiting:List α):Prop where
 inOrder:(l.started++waiting).Sublist l.accepted
 account:(l.started++waiting++l.dropped).Perm l.accepted

theorem balanced_empty:Balanced ({}:Ledger α) []:=⟨Sublist.refl _,Perm.refl _⟩

namespace Balanced

theorem accept (h:Balanced l waiting) (its:List α):Balanced (l.accept its) (waiting++its):=by
 constructor
 · show (l.started++(waiting++its)).Sublist (l.accepted++its)
   rw[←append_assoc]
   exact h.inOrder.append_right its
 · show (l.started++(waiting++its)++l.dropped).Perm (l.accepted++its)
   have hswap:(l.started++(waiting++its)++l.dropped).Perm (l.started++waiting++l.dropped++its):=by
    grind [append_assoc,perm_append_comm.append_left]
   exact hswap.trans (h.account.append_right its)

theorem start (h:Balanced l (a::waiting)):Balanced (l.start a) waiting:=by
 have hmov:(l.start a).started++waiting=l.started++a::waiting:=by simp[Ledger.start]
 constructor
 · rw[hmov]
   exact h.inOrder
 · rw[hmov]
   exact h.account

theorem drop {kept gone:List α} (h:Balanced l waiting) (hkept:kept.Sublist waiting)
 (hgone:(kept++gone).Perm waiting):Balanced (l.drop gone) kept:=by
 constructor
 · exact (hkept.append_left l.started).trans h.inOrder
 · show (l.started++kept++(l.dropped++gone)).Perm l.accepted
   have hswap:(l.started++kept++(l.dropped++gone)).Perm (l.started++(kept++gone)++l.dropped):=by
    simp only[append_assoc]
    exact (perm_append_comm.append_left kept).append_left l.started
   exact (hswap.trans ((hgone.append_left l.started).append_right l.dropped)).trans h.account

theorem mem_cases (h:Balanced l waiting) (ha:a∈l.accepted):a∈l.started∨a∈waiting∨a∈l.dropped:=by
 have hmem:=h.account.mem_iff.mpr ha
 simpa[or_assoc] using hmem

theorem notMem_of_dropped (h:Balanced l waiting) (hnd:l.accepted.Nodup) (ha:a∈l.dropped):
 a∉l.started∧a∉waiting:=by
 have hall:=h.account.nodup_iff.mpr hnd
 grind

end Balanced
end Ledger
end BolterTrader.Foundations
