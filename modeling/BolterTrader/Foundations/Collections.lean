import Mathlib.Data.List.Perm.Subperm
import Mathlib.Data.List.Sort

/-! Orders that the Go runtime leaves open: where `sort.Slice` puts rows that
compare equal, and in which order a `range` visits the keys of a map. -/
namespace BolterTrader.Foundations
open List

variable {ρ:Type*}

def SortedBy (less:ρ→ρ→Bool) (rows:List ρ):Prop:=rows.Pairwise fun a b=>less b a=false

structure SliceSort (less:ρ→ρ→Bool) where
 sort:List ρ→List ρ
 perm:∀ rows,(sort rows).Perm rows
 sorted:∀ rows,SortedBy less (sort rows)

namespace SliceSort

def byKey {α:Type*} [LinearOrder α] (less:ρ→ρ→Bool) (key:ρ→α)
  (hless:∀ a b,less a b=decide (key a<key b)):SliceSort less where
 sort:=List.insertionSort fun a b=>less b a=false
 perm:=List.perm_insertionSort _
 sorted rows:=by
  have hle (a b:ρ):less b a=false ↔ key a≤key b:=by simp[hless]
  have : Std.Total fun a b : ρ=>less b a=false:=⟨fun a b=>by simpa only[hle] using le_total (key a) (key b)⟩
  have : IsTrans ρ fun a b=>less b a=false:=
   ⟨fun a b c hab hbc=>(hle a c).mpr (((hle a b).mp hab).trans ((hle b c).mp hbc))⟩
  exact List.pairwise_insertionSort _ rows

end SliceSort

structure RangeOrder where
 visit:{α:Type}→List α→List α
 perm:∀ {α:Type} (keys:List α),(visit keys).Perm keys

namespace RangeOrder

def listed:RangeOrder:=⟨id,fun keys=>.refl keys⟩

@[simp] theorem visit_singleton (ord:RangeOrder) {α:Type} (key:α):ord.visit [key]=[key]:=
 perm_singleton.mp (ord.perm [key])

theorem mem_visit (ord:RangeOrder) {α:Type} {keys:List α} {key:α}:key∈ord.visit keys ↔ key∈keys:=
 (ord.perm keys).mem_iff

end RangeOrder

/-! Work that is done in any order: one item is taken out at a time, and what is left
is a part of what there was. -/

theorem perm_cons_eraseIdx {its:List ρ} {ix:ℕ} {item:ρ} (h:its[ix]?=some item):
 its.Perm (item::its.eraseIdx ix):=by
 obtain ⟨hind,rfl⟩:=List.getElem?_eq_some_iff.mp h
 exact (getElem_cons_eraseIdx_perm hind).symm

theorem nodup_of_subperm {part wh:List ρ} (h:part.Subperm wh) (hwh:wh.Nodup):part.Nodup:=by
 obtain ⟨kept,hperm,hsub⟩:=h
 grind

theorem subperm_map {α:Type*} {part wh:List ρ} (h:part.Subperm wh) (f:ρ→α):
 (part.map f).Subperm (wh.map f):=by
 obtain ⟨kept,hperm,hsub⟩:=h
 exact ⟨kept.map f,hperm.map f,hsub.map f⟩

theorem perm_flatMap_filter {κ:Type*} [DecidableEq κ] (key:ρ→κ) {keys:List κ} (hkeys:keys.Nodup)
 {rows:List ρ} (hall:∀ row∈rows,key row∈keys):
 (keys.flatMap fun k=>rows.filter fun row=>key row=k).Perm rows:=by
 induction keys generalizing rows with
 | nil=>
  have hnone:rows=[]:=eq_nil_iff_forall_not_mem.mpr fun row hrow=>not_mem_nil (hall row hrow)
  simp[hnone]
 | cons k rest ih=>
  obtain ⟨hk,hrest⟩:=nodup_cons.mp hkeys
  -- the other groups come from the rows that are left
  have hos:(rest.flatMap fun other=>rows.filter fun row=>key row=other) =
    rest.flatMap fun other=>(rows.filter fun row=>¬key row=k).filter fun row=>key row=other:=by
   refine flatMap_congr fun other hoth=>?_
   rw[filter_filter]
   refine filter_congr fun row _=>?_
   by_cases heq:key row=other
   · grind
   · simp[heq]
  have hleft:=@ih hrest (rows.filter fun row=>¬key row=k) fun row hrow=>by
   obtain ⟨hmem,hne⟩:=mem_filter.mp hrow
   exact (mem_cons.mp (hall row hmem)).resolve_left (by simpa using hne)
  rw[flatMap_cons,hos]
  refine (hleft.append_left _).trans ?_
  simpa using filter_append_perm (fun row=>decide (key row=k)) rows

end BolterTrader.Foundations
