import Mathlib.Data.List.Infix
import Mathlib.Data.List.TakeWhile

/-! Text as the Go standard library handles it. -/
namespace BolterTrader.Foundations
namespace GoText
open List

/-! ## Runes -/

def isSpace (c:Char):Bool:=
 [0x09,0x0A,0x0B,0x0C,0x0D,0x20,0x85,0xA0,0x1680,0x2028,0x2029,0x202F,0x205F,0x3000].contains c.toNat ||
 (0x2000≤c.toNat && c.toNat≤0x200A)

def isControl (c:Char):Bool:=c.toNat<0x20 || (0x7F≤c.toNat && c.toNat≤0x9F)
def lowerRune (c:Char):Char:=if c.toNat=0x130 then 'i' else if c.toNat=0x212A then 'k' else c.toLower
def upperRune (c:Char):Char:=if c.toNat=0x131 then 'I' else if c.toNat=0x17F then 'S' else c.toUpper
def foldRune (c:Char):Char:=if c.toNat=0x17F then 's' else if c.toNat=0x212A then 'k' else c.toLower

/-! ## Texts -/

def toLower (s:String):String:=String.ofList (s.toList.map lowerRune)
def toUpper (s:String):String:=String.ofList (s.toList.map upperRune)
def equalFold (s t:String):Bool:=s.toList.map foldRune == t.toList.map foldRune
def contains (s part:String):Bool:=s.toList.tails.any fun rest=>part.toList.isPrefixOf rest
def removeRune (c:Char) (s:String):String:=String.ofList (s.toList.filter (· ≠ c))

def trimSpace (s:String):String:=
 String.ofList ((s.toList.dropWhile isSpace).reverse.dropWhile isSpace).reverse

def hasSuffix (s ending:String):Bool:=ending.toList.isSuffixOf s.toList

def trimPrefix (s start:String):String:=
 if start.toList.isPrefixOf s.toList then String.ofList (s.toList.drop start.toList.length) else s

def replaceRune (c d:Char) (s:String):String:=String.ofList (s.toList.map fun x=>if x=c then d else x)
def split (c:Char) (s:String):List String:=(s.toList.splitOn c).map String.ofList

def fieldsFrom (word:List Char):List Char→List String
 | []=>if word.isEmpty then [] else [String.ofList word.reverse]
 | c::rest=>
  if isSpace c then
   if word.isEmpty then fieldsFrom [] rest else String.ofList word.reverse::fieldsFrom [] rest
  else fieldsFrom (c::word) rest

def fields (s:String):List String:=fieldsFrom [] s.toList

def takeBytes:ℕ→List Char→List Char
 | _,[]=>[]
 | n,c::rest=>
  if c.utf8Size≤n then c::takeBytes (n-c.utf8Size) rest
  else List.replicate n (Char.ofNat 0xFFFD)

def itoa (n:Int):String:=toString n

/-! ## Searching a text -/

theorem contains_iff (s part:String):
 contains s part=true ↔ ∃ bef after,s.toList=bef++part.toList++after:=by
 simp only[contains,any_eq_true,mem_tails, isPrefixOf_iff_prefix]
 constructor
 · rintro ⟨rest,⟨bef,hs⟩,after,hr⟩
   grind
 · rintro ⟨bef,after,hs⟩
   exact ⟨part.toList++after,⟨bef,by rw[hs,append_assoc]⟩,⟨after,rfl⟩⟩

/-! ## Blank texts -/

theorem trimSpace_ne_empty {s:String} {c:Char} (hc:c∈s.toList) (hspa:isSpace c=false):trimSpace s≠"" := by
 intro h
 have hnil:(s.toList.dropWhile isSpace).reverse.dropWhile isSpace=[]:=by
  have hlist:=congrArg String.toList h
  rwa[trimSpace,String.toList_ofList,String.toList_empty,reverse_eq_nil_iff] at hlist
 rw[dropWhile_eq_nil_iff] at hnil
 rw[←takeWhile_append_dropWhile (p:=isSpace) (l:=s.toList),mem_append] at hc
 grind [isSpace,mem_takeWhile_imp,mem_reverse.mpr]

theorem trimSpace_eq_self {s:String} (h:∀ c∈s.toList,isSpace c=false):trimSpace s=s:=by
 have hdrop (l:List Char) (hl:∀ c∈l,isSpace c=false):l.dropWhile isSpace=l:=by
  cases l with
  | nil=>rfl
  | cons head=>rw[dropWhile_cons,hl head mem_cons_self,if_neg Bool.false_ne_true]
 grind [trimSpace,mem_reverse.mp,reverse_reverse,String.ofList_toList]

theorem isSpace_digit {c:Char} (h:c.isDigit=true):isSpace c=false:=by
 simp only[Char.isDigit,Bool.and_eq_true,decide_eq_true_eq,UInt32.le_iff_toNat_le] at h
 have hlow:48≤c.toNat:=h.1
 have hhigh:c.toNat≤57:=h.2
 simp[isSpace]
 omega

/-! ## Words without spaces -/

theorem itoa_space (n:Int): ' ' ∉ (itoa n).toList:=by
 have hnat:∀ m:ℕ,' ' ∉ (Nat.repr m).toList:=by
  intro m hm
  have hmem: ' ' ∈ Nat.toDigits 10 m:=by simpa[Nat.repr] using hm
  have hdig:(' ' : Char).isDigit=true:=Nat.isDigit_of_mem_toDigits (by decide) (by decide) hmem
  exact absurd hdig (by decide)
 cases n with
 | ofNat m=>exact hnat m
 | negSucc m=>
  intro h
  have hsig: ' ' ∈ ("-" ++ Nat.repr (m+1)).toList:=h
  grind [String.toList_append]

theorem split_two {x y z:Char} {frn back:List Char} (hfro:frn≠[]) (hback:back≠[])
 (h:[x,y,z]=frn++back):frn=[x]∨frn=[x,y]:=by
 cases frn with
 | nil=>exact absurd rfl hfro
 | cons a rest=>
  obtain ⟨rfl,htail⟩:=cons.inj h
  cases rest with
  | nil=>exact .inl rfl
  | cons b more=>
   obtain ⟨rfl,hmore⟩:=cons.inj htail
   cases more with
   | nil=>exact .inr rfl
   | cons=>
    grind [append_eq_nil_iff.mp]

theorem not_infix_around_word {x y:Char} {frn word back:List Char} (hword : ' ' ∉ word)
 (hfro:¬ [x,' ',y] <:+: frn) (hlast:frn.getLast?≠some x) (hspa:frn.getLast?≠some ' ')
 (hback:¬ [x,' ',y] <:+: back) (hfst:¬ [' ',y] <+: back):
 ¬ [x,' ',y] <:+: frn++(word++back):=by
 rw[infix_append_iff_ne_nil]
 rintro (h | h | ⟨p,q,hp,hq,heq,hsuf,-⟩)
 · exact hfro h
 · rw[infix_append_iff_ne_nil] at h
   rcases h with h | h | ⟨p,q,hp,hq,heq,hsuf,hpre⟩
   · exact hword (h.subset (by simp))
   · exact hback h
   · rcases split_two hp hq heq with rfl | rfl
     · grind
     · exact hword (hsuf.subset (by simp))
 · rcases split_two hp hq heq with rfl | rfl
   · obtain ⟨st1,rfl⟩:=hsuf
     exact hlast (by simp)
   · obtain ⟨st1,rfl⟩:=hsuf
     exact hspa (by simp)

theorem cut_at_mark {mark:Char} {a b rest rest':List Char} (ha:mark∉a) (hb:mark∉b)
 (h:a++mark::rest=b++mark::rest'):a=b∧rest=rest':=by
 induction a generalizing b with
 | nil=>
  cases b with
  | nil=>exact ⟨rfl,(cons.inj h).2⟩
  | cons=>
   grind
 | cons c a ih=>
  cases b with
  | nil=>
   grind
  | cons=>
   grind

theorem contains_infix {s part:String} (h:contains s part=true) {win:List Char}
 (hw:win <:+: part.toList):win <:+: s.toList:=by
 obtain ⟨bef,aft,heq⟩:=(contains_iff s part).mp h
 grind

end GoText

def lowerWord (word : String) : String := GoText.toLower (GoText.trimSpace word)

end BolterTrader.Foundations
