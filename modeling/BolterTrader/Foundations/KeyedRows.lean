import Mathlib.Data.List.Induction
import Mathlib.Data.List.Nodup

/-! Lists of rows that stand for a map: the row of a key is the last one written
under it. -/
namespace BolterTrader.Foundations.KeyedRows
open List Option

variable {ρ κ τ ι:Type*}

/-! ## One row for each key -/

def Unique (key:ρ→κ) (rows:List ρ):Prop:=(rows.map key).Nodup

instance [DecidableEq κ] (key:ρ→κ) (rows:List ρ):Decidable (Unique key rows):=
 inferInstanceAs (Decidable (rows.map key).Nodup)

section
variable {key:ρ→κ} {rows:List ρ}

theorem Unique.eq_of_key (h:Unique key rows) {a b:ρ} (ha:a∈rows) (hb:b∈rows)
 (hkey:key a=key b):a=b:=
 inj_on_of_nodup_map h ha hb hkey

theorem Unique.perm (h:Unique key rows) {other:List ρ} (hperm:other.Perm rows):Unique key other:=
 (hperm.map key).nodup_iff.mpr h

theorem Unique.filter (h:Unique key rows) (keep:ρ→Bool):Unique key (rows.filter keep):=
 h.sublist (filter_sublist.map key)

theorem unique_append {left rgh:List ρ} (hl:Unique key left) (hr:Unique key rgh)
 (hdis:∀ a∈left,∀ b∈rgh,key a≠key b):Unique key (left++rgh):=by
 grind [Unique,nodup_append]

theorem Unique.new_of_concat {row:ρ} (h:Unique key (rows++[row])):
 Unique key rows∧∀ oth∈rows,key oth≠key row:=by
 unfold Unique at h
 rw[map_append,nodup_append] at h
 refine ⟨h.1,?_⟩
 intro oth hoth
 exact h.2.2 (key oth) (mem_map_of_mem hoth) (key row) (by simp)

theorem Unique.map_injective (h:Unique key rows) {name:κ→ι} (hname:Function.Injective name):
 Unique (fun row=>name (key row)) rows:=by
 unfold Unique
 have hmap:rows.map (fun row=>name (key row))=(rows.map key).map name:=by simp
 rw[hmap]
 exact h.map hname

theorem unique_option_iff:Unique (fun row=>some (key row)) rows ↔ Unique key rows:=by
 unfold Unique
 grind

end

/-! ## The row of a key -/

variable [DecidableEq κ] [DecidableEq ι]

def last? (key:ρ→κ) (rows:List ρ) (k:κ):Option ρ:=rows.reverse.find? fun row=>key row=k

variable {key:ρ→κ}

@[simp] theorem last?_nil (k:κ):last? key [] k=none:=rfl

theorem last?_append (left rgh:List ρ) (k:κ):
 last? key (left++rgh) k=(last? key rgh k).or (last? key left k):=by
 simp[last?,List.find?_append]

theorem last?_concat (rows:List ρ) (row:ρ) (k:κ):
 last? key (rows++[row]) k=if key row=k then some row else last? key rows k:=by
 by_cases h:key row=k<;>simp[last?,h]

theorem last?_map {f:ρ→ρ} (hf:∀ row,key (f row)=key row) (rows:List ρ) (k:κ):
 last? key (rows.map f) k=(last? key rows k).map f:=by
 have hkeys:(fun row=>decide (key row=k)) ∘ f=fun row=>decide (key row=k):=by
  funext row
  simp[hf]
 rw[last?,last?,←map_reverse,List.find?_map,hkeys]

variable {rows:List ρ} {row:ρ}

theorem key_of_last? {k:κ} (h:last? key rows k=some row):key row=k:=by
 simpa using List.find?_some h

theorem mem_of_last? {k:κ} (h:last? key rows k=some row):row∈rows:=mem_reverse.mp (mem_of_find?_eq_some h)

theorem last?_eq_none_iff {k:κ}:last? key rows k=none ↔ ∀ row∈rows,key row≠k:=by
 simp[last?]

theorem last?_isSome_of_mem (h:row∈rows):(last? key rows (key row)).isSome:=by
 rw[isSome_iff_ne_none]
 intro hnone
 exact last?_eq_none_iff.mp hnone row h rfl

theorem Unique.last?_eq_some_iff (h:Unique key rows) {k:κ}:
 last? key rows k=some row ↔ row∈rows∧key row=k:=by
 constructor
 · grind [mem_of_last?,key_of_last?]
 · rintro ⟨hmem,rfl⟩
   have hsome:(last? key rows (key row)).isSome:=last?_isSome_of_mem hmem
   obtain ⟨fnd,hfd⟩:=isSome_iff_exists.mp hsome
   rw[hfd,h.eq_of_key (mem_of_last? hfd) hmem (key_of_last? hfd)]

theorem Unique.last?_perm {oth:List ρ} (h:Unique key rows) (hperm:oth.Perm rows) (k:κ):
 last? key oth k=last? key rows k:=by
 apply Option.ext
 intro row
 rw[(h.perm hperm).last?_eq_some_iff,h.last?_eq_some_iff,hperm.mem_iff]

theorem Unique.last?_rest {rest:List ρ} (h:Unique key rows) (hperm:rows.Perm (row::rest)) (k:κ):
 last? key rest k=if key row=k then none else last? key rows k:=by
 obtain ⟨hrow,hrest⟩:=nodup_cons.mp (h.perm hperm.symm : Unique key (row::rest))
 by_cases hk:key row=k
 · grind [last?_eq_none_iff]
 · rw[if_neg hk]
   apply Option.ext
   intro oth
   rw[Unique.last?_eq_some_iff hrest,h.last?_eq_some_iff,hperm.mem_iff,mem_cons]
   grind

theorem last?_filter (rows:List ρ) (keep:κ→Bool) (k:κ):
 last? key (rows.filter fun row=>keep (key row)) k=if keep k then last? key rows k else none:=by
 induction rows using List.reverseRecOn with
 | nil=>simp
 | append_singleton rest row ih=>
  rw[filter_append,filter_singleton,last?_concat]
  cases hkeep : keep (key row) with
  | true=>
   rw[cond_true,last?_concat,ih]
   grind
  | false=>
   grind

theorem last?_map_injective {name:κ→ι} (hname:Function.Injective name) (rows:List ρ) (k:κ):
 last? (fun row=>name (key row)) rows (name k)=last? key rows k:=by
 simp[last?,hname.eq_iff]

theorem last?_prod {f:ρ→ι} (rows:List ρ) (i:ι) (k:κ):
 last? (fun row=>(f row,key row)) rows (i,k)=last? key (rows.filter fun row=>f row=i) k:=by
 unfold last?
 grind

/-! ## Items of which only some become rows -/

def WrittenLast (tag:τ→κ) (convert:τ→Option ρ) (items:List τ):Prop:=
 items.Pairwise fun a b=>tag a=tag b→ convert a=none

section
variable {tag:τ→κ} {convert:τ→Option ρ} {items:List τ}

omit [DecidableEq κ] in
theorem Unique.writtenLast (h:Unique tag items) (convert:τ→Option ρ):WrittenLast tag convert items:=by
 apply (pairwise_map.mp h).imp
 grind

omit [DecidableEq κ] in
theorem writtenLast_concat {item:τ}:WrittenLast tag convert (items++[item]) ↔
 WrittenLast tag convert items∧∀ oth∈items,tag oth=tag item→ convert oth=none:=by
 simp[WrittenLast,pairwise_append]

variable (hkey:∀ item row,convert item=some row→ key row=tag item)
include hkey

theorem last?_filterMap_eq_none {k:κ} (h:∀ item∈items,tag item=k→ convert item=none):
 last? key (items.filterMap convert) k=none:=by
 refine last?_eq_none_iff.mpr ?_
 grind

theorem WrittenLast.last?_filterMap (h:WrittenLast tag convert items) (k:κ):
 last? key (items.filterMap convert) k=(last? tag items k).bind convert:=by
 induction items using List.reverseRecOn with
 | nil=>rfl
 | append_singleton rest item ih=>
  obtain ⟨hrest,hlast⟩:=writtenLast_concat.mp h
  rw[filterMap_append,last?_concat]
  cases hconv : convert item with
  | none=>
   rw[filterMap_cons_none hconv,filterMap_nil,append_nil]
   by_cases htag:tag item=k
   · -- The item writes nothing, and neither did the earlier ones of its tag.
     rw[if_pos htag,bind_some,hconv]
     exact last?_filterMap_eq_none hkey (htag▸hlast)
   · rw[if_neg htag,ih hrest]
  | some row=>
   rw[filterMap_cons_some hconv,filterMap_nil,last?_concat,ih hrest,hkey item row hconv]
   grind

omit [DecidableEq κ] in
theorem WrittenLast.unique_filterMap (h:WrittenLast tag convert items):
 Unique key (items.filterMap convert):=by
 induction items with
 | nil=>exact nodup_nil
 | cons item rest ih=>
  obtain ⟨hfst,hrest⟩:=pairwise_cons.mp h
  cases hconv : convert item with
  | none=>
   rw[filterMap_cons_none hconv]
   exact ih hrest
  | some row=>
   rw[filterMap_cons_some hconv]
   refine nodup_cons.mpr ⟨?_,ih hrest⟩
   grind

theorem unwritten_before {item:τ} (hunique:Unique key ((items++[item]).filterMap convert))
 (hlast:last? key ((items++[item]).filterMap convert) (tag item)=convert item):
 Unique key (items.filterMap convert)∧∀ oth∈items,tag oth=tag item→ convert oth=none:=by
 rw[filterMap_append] at hunique hlast
 cases hconv : convert item with
 | none=>
  rw[filterMap_cons_none hconv,filterMap_nil,append_nil] at hunique hlast
  refine ⟨hunique,?_⟩
  intro oth hoth htag
  by_contra hsome
  obtain ⟨row,hrow⟩:=ne_none_iff_exists'.mp hsome
  rw[hconv] at hlast
  exact last?_eq_none_iff.mp hlast row (mem_filterMap.mpr ⟨oth,hoth,hrow⟩)
   ((hkey oth row hrow).trans htag)
 | some row=>
  rw[filterMap_cons_some hconv,filterMap_nil] at hunique
  obtain ⟨hrest,hnew⟩:=hunique.new_of_concat
  refine ⟨hrest,?_⟩
  intro oth hoth htag
  by_contra hsome
  obtain ⟨wrt,hwri⟩:=ne_none_iff_exists'.mp hsome
  grind

theorem writtenLast_of_unique (hunique:Unique key (items.filterMap convert))
 (hlast:∀ k,last? key (items.filterMap convert) k=(last? tag items k).bind convert):
 WrittenLast tag convert items:=by
 induction items using List.reverseRecOn with
 | nil=>exact Pairwise.nil
 | append_singleton rest item ih=>
  have hitem:last? key ((rest++[item]).filterMap convert) (tag item)=convert item:=by
   rw[hlast,last?_concat,if_pos rfl,bind_some]
  obtain ⟨hrest,hnone⟩:=unwritten_before hkey hunique hitem
  refine writtenLast_concat.mpr ⟨ih hrest ?_,hnone⟩
  intro k
  by_cases htag:tag item=k
  · subst htag
    rw[last?_filterMap_eq_none hkey hnone]
    cases hfd : last? tag rest (tag item) with
    | none=>rfl
    | some fnd=>rw[bind_some,hnone fnd (mem_of_last? hfd) (key_of_last? hfd)]
  · have hoth:last? key ([item].filterMap convert) k=none:=by
     apply last?_filterMap_eq_none hkey
     intro oth hmem hk
     rw[mem_singleton.mp hmem] at hk
     exact absurd hk htag
    have hk:=hlast k
    rw[last?_concat,if_neg htag,filterMap_append,last?_append,hoth,none_or] at hk
    exact hk

end

/-! ## A map kept as a list -/

def erase (key:ρ→κ) (rows:List ρ) (k:κ):List ρ:=rows.filter fun row=>key row≠k
def put (key:ρ→κ) (rows:List ρ) (row:ρ):List ρ:=erase key rows (key row)++[row]

theorem last?_erase (rows:List ρ) (ers k:κ):
 last? key (erase key rows ers) k=if k=ers then none else last? key rows k:=by
 rw[erase,last?_filter rows fun k=>decide (k≠ers)]
 by_cases h:k=ers<;>simp[h]

theorem last?_put (rows:List ρ) (row:ρ) (k:κ):
 last? key (put key rows row) k=if key row=k then some row else last? key rows k:=by
 rw[put,last?_concat,last?_erase]
 grind

theorem Unique.erase (h:Unique key rows) (k:κ):Unique key (erase key rows k):=h.filter _

theorem Unique.put (h:Unique key rows) (row:ρ):Unique key (put key rows row):=by
 have hrow:Unique key [row]:=nodup_singleton (key row)
 apply unique_append (h.erase (key row)) hrow
 intro a ha b hb
 rw[mem_singleton.mp hb]
 simpa using (mem_filter.mp ha).2

theorem last?_foldl_put (rows items:List ρ) (k:κ):
 last? key (items.foldl (put key) rows) k=(last? key items k).or (last? key rows k):=by
 induction items using List.reverseRecOn with
 | nil=>simp
 | append_singleton items item ih=>
  rw[foldl_append,foldl_cons,foldl_nil,last?_put,last?_concat,ih]
  by_cases h:key item=k<;>simp[h]

theorem Unique.foldl_put (h:Unique key rows) (items:List ρ):
 Unique key (items.foldl (KeyedRows.put key) rows):=by
 induction items generalizing rows with
 | nil=>exact h
 | cons item items ih=>exact ih (h.put item)

theorem mem_foldl_put {items:List ρ} (h:row∈items.foldl (put key) rows):row∈rows∨row∈items:=by
 induction items generalizing rows with
 | nil=>exact .inl h
 | cons item items ih=>
  obtain hput | hit:=ih h
  · obtain hkept | hitem:=mem_append.mp hput
    · exact .inl (mem_of_mem_filter hkept)
    all_goals grind
  · grind

end BolterTrader.Foundations.KeyedRows
