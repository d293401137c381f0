import Mathlib.Data.Nat.Notation
import Mathlib.Logic.Function.Basic

/-! A map from keys to the places of a list, where each row has at most one key and no two
rows share one. -/
namespace BolterTrader.Foundations

variable {α κ:Type*}

theorem getElem?_concat_eq_some {rows:List α} {last a:α} {place:ℕ}:
 (rows++[last])[place]?=some a ↔ rows[place]?=some a∨place=rows.length∧last=a:=by
 grind

def Indexes (field:α→Option κ) (rows:List α) (index:κ→Option ℕ):Prop:=
 ∀ key place,index key=some place ↔ ∃ a,rows[place]?=some a∧field a=some key

namespace Indexes
variable {field:α→Option κ} {rows:List α} {index:κ→Option ℕ} {a:α}

theorem nil:Indexes field [] fun _=>none:=by
 intro key place
 simp

theorem field_eq (h:Indexes field rows index) {key:κ} {place:ℕ} (hkey:index key=some place)
 (ha:rows[place]?=some a):field a=some key:=by
 obtain ⟨b,hb,hfie⟩:=(h key place).mp hkey
 grind

theorem concat_none (h:Indexes field rows index) (ha:field a=none):Indexes field (rows++[a]) index:=by
 intro key place
 rw[h key place]
 grind

theorem concat_some [DecidableEq κ] (h:Indexes field rows index) {new:κ} (ha:field a=some new)
 (hnew:index new=none):Indexes field (rows++[a]) (Function.update index new (some rows.length)):=by
 intro key place
 simp only[getElem?_concat_eq_some]
 by_cases hkey:key=new
 · subst hkey
   rw[Function.update_self,Option.some_inj]
   constructor
   · grind
   · rintro ⟨b,hb | ⟨hplace,-⟩,hb'⟩
     · rw[(h key place).mpr ⟨b,hb,hb'⟩] at hnew
       cases hnew
     · exact hplace.symm
 · rw[Function.update_of_ne hkey,h key place]
   grind

end Indexes
end BolterTrader.Foundations
