import BolterTrader.Foundations.Bytes
import BolterTrader.Foundations.DecimalText
import BolterTrader.Foundations.Transition

/-! JSON texts as `encoding/json` reads and writes them. -/
namespace BolterTrader.Foundations.Json
open Transition List

inductive Value where
 | null
 | bool (b:Bool)
 | num (literal:List Char)
 | str (raw:List Char)
 | arr (items:List Value)
 | obj (fields:List (List Char×Value))
 deriving Repr

/-! ## Reading -/

inductive Escape where
 | plain | backslash | hex (missing:ℕ)
 deriving DecidableEq

def isHex (c:Char):Bool:=c.isDigit || ('a' ≤ c && c ≤ 'f') || ('A' ≤ c && c ≤ 'F')

def Escape.step:Escape→Char→Option Escape
 | .plain,c=>if c = '"'∨c.toNat<0x20 then none else if c = '\\' then some .backslash else some .plain
 | .backslash,c=>
  if c = 'u' then some (.hex 3) else if c∈['"','\\','/','b','f','n','r','t'] then some .plain else none
 | .hex missing,c=>
  if isHex c then
   match missing with
   | 0=>some .plain
   | more+1=>some (.hex more)
  else none

inductive Frame where
 | arr (items:List Value)
 | obj (fields:List (List Char×Value)) (key:List Char)

inductive Mode where
 | value
 | first
 | firstKey
 | key
 | colon
 | after
 | word (letters:List Char)
 | text (raw:List Char) (escape:Escape) (isKey:Bool)
 | done (v:Value)

structure Reader where
 stack:List Frame:=[]
 mode:Mode:=.value

def isSpace (c:Char):Bool:=c = ' ' || c = '\t' || c = '\r' || c = '\n'
def isWord (c:Char):Bool:=!(isSpace c || [',',':','[',']','{','}','"'].contains c)

def deliver (v:Value):List Frame→Reader
 | []=>⟨[],.done v⟩
 | .arr items::rest=>⟨.arr (items++[v])::rest,.after⟩
 | .obj fields key::rest=>⟨.obj (fields++[(key,v)]) []::rest,.after⟩

def isExponent:List Char→Bool
 | []=>true
 | e::rest=>
  (e = 'e' || e = 'E') &&
   match rest with
   | '+' :: digits | '-' :: digits | digits=>!digits.isEmpty && digits.all Char.isDigit

def isFraction:List Char→Bool
 | '.' :: rest=>!(rest.takeWhile Char.isDigit).isEmpty && isExponent (rest.dropWhile Char.isDigit)
 | rest=>isExponent rest

def isUnsigned (text:List Char):Bool:=
 match text.takeWhile Char.isDigit with
 | []=>false
 | first::more=>(first ≠ '0' || more.isEmpty) && isFraction (text.dropWhile Char.isDigit)

def isNumber:List Char→Bool
 | '-' :: rest=>isUnsigned rest
 | rest=>isUnsigned rest

def ofWord (letters:List Char):Option Value:=
 if letters="null".toList then some .null
 else if letters="true".toList then some (.bool true)
 else if letters="false".toList then some (.bool false)
 else if isNumber letters then some (.num letters)
 else none

def Reader.settle (r:Reader):Option Reader:=
 match r.mode with
 | .word letters=>(ofWord letters).map fun v=>deliver v r.stack
 | _=>some r

def startValue (stack:List Frame) (c:Char):Option Reader:=
 if c = '"' then some ⟨stack,.text [] .plain false⟩
 else if c = '[' then some ⟨.arr []::stack,.first⟩
 else if c = '{' then some ⟨.obj [] []::stack,.firstKey⟩
 else if isWord c then some ⟨stack,.word [c]⟩
 else none

def startKey (stack:List Frame) (c:Char):Option Reader:=
 if c = '"' then some ⟨stack,.text [] .plain true⟩ else none

def close (c:Char):List Frame→Option Reader
 | .arr items::rest=>if c = ']' then some (deliver (.arr items) rest) else none
 | .obj fields _::rest=>if c = '}' then some (deliver (.obj fields) rest) else none
 | []=>none

def goOn (c:Char) (stack:List Frame):Option Reader:=
 if c = ',' then
  match stack with
  | .arr _::_=>some ⟨stack,.value⟩
  | .obj _ _::_=>some ⟨stack,.key⟩
  | []=>none
 else close c stack

def Reader.next (r:Reader) (c:Char):Option Reader:=
 if isSpace c then some r
 else
  match r.mode with
  | .value=>startValue r.stack c
  | .first=>if c = ']' then close c r.stack else startValue r.stack c
  | .firstKey=>if c = '}' then close c r.stack else startKey r.stack c
  | .key=>startKey r.stack c
  | .colon=>if c = ':' then some ⟨r.stack,.value⟩ else none
  | .after=>goOn c r.stack
  | _=>none

def endText (stack:List Frame) (raw:List Char) (isKey:Bool):Option Reader:=
 if isKey then
  match stack with
  | .obj fields _::rest=>some ⟨.obj fields raw::rest,.colon⟩
  | _=>none
 else some (deliver (.str raw) stack)

def Reader.step (r:Reader) (c:Char):Option Reader:=
 match r.mode with
 | .text raw escape isKey=>
  if escape=.plain∧c = '"' then endText r.stack raw isKey
  else (escape.step c).map fun escape=>⟨r.stack,.text (raw++[c]) escape isKey⟩
 | .word letters=>if isWord c then some ⟨r.stack,.word (letters++[c])⟩ else r.settle.bind fun r=>r.next c
 | _=>r.next c

def Reader.finish (r:Reader):Option Value:=
 r.settle.bind fun r=>
  match r.mode with
  | .done v=>some v
  | _=>none

def parse (text:List Char):Option Value:=(run Reader.step {} text).bind Reader.finish

/-! ## Writing -/

def commaSeparated:List (List Char)→List Char
 | []=>[]
 | first::rest=>first++rest.flatMap (',' :: ·)

def quoted (raw:List Char):List Char := '"' :: raw++['"']

mutual
def render:Value→List Char
 | .null => "null".toList
 | .bool b=>if b then "true".toList else "false".toList
 | .num literal=>literal
 | .str raw=>quoted raw
 | .arr items => '[' :: commaSeparated (renderItems items)++[']']
 | .obj fields => '{' :: commaSeparated (renderFields fields)++['}']
def renderItems:List Value→List (List Char)
 | []=>[]
 | v::rest=>render v::renderItems rest
def renderFields:List (List Char×Value)→List (List Char)
 | []=>[]
 | field::rest=>(quoted field.1 ++ ':' :: render field.2)::renderFields rest
end

def IsRaw (raw:List Char):Prop:=run Escape.step .plain raw=some .plain

instance : DecidablePred IsRaw:=fun raw=>inferInstanceAs (Decidable (run Escape.step .plain raw=some .plain))

inductive Valid : Value→Prop
 | null : Valid .null
 | bool (b:Bool):Valid (.bool b)
 | num {literal:List Char} (h:isNumber literal=true):Valid (.num literal)
 | str {raw:List Char} (h:IsRaw raw):Valid (.str raw)
 | arr {items:List Value} (h:∀ v∈items,Valid v):Valid (.arr items)
 | obj {fields:List (List Char×Value)} (hkeys:∀ field∈fields,IsRaw field.1)
  (hvalues:∀ field∈fields,Valid field.2):Valid (.obj fields)

/-! ## What is written is read back -/

section
variable {stack:List Frame} {raw letters:List Char} {v:Value} {r target:Reader} {c:Char}

theorem run_text (stack:List Frame) (isKey:Bool) (before:List Char) {escape escape':Escape}
 (h:run Escape.step escape raw=some escape'):
 run Reader.step ⟨stack,.text before escape isKey⟩ raw = some ⟨stack,.text (before++raw) escape' isKey⟩:=by
 induction raw generalizing before escape with
 | nil=>
  cases h
  rw[append_nil,run_nil]
 | cons c rest ih=>
  obtain ⟨middle,hstep,hrest⟩:=run_cons_eq_some.mp h
  apply run_cons_eq_some.mpr
  refine ⟨⟨stack,.text (before++[c]) middle isKey⟩,?_,?_⟩
  · have hins:¬(escape=.plain∧c = '"'):=by
     rintro ⟨rfl,rfl⟩
     simp[Escape.step] at hstep
    simp[Reader.step,hins,hstep]
  · grind

theorem run_quoted (stack:List Frame) (isKey:Bool) (h:IsRaw raw) (rest:List Char):
 run Reader.step ⟨stack,.text [] .plain isKey⟩ (raw ++ '"' :: rest) =
  (endText stack raw isKey).bind fun r=>run Reader.step r rest:=by
 have hraw:=run_text stack isKey [] h
 ext final
 grind [run_append_eq_some,run,Reader.step]

theorem run_word (stack:List Frame) (before:List Char) (h:∀ c∈letters,isWord c=true):
 run Reader.step ⟨stack,.word before⟩ letters=some ⟨stack,.word (before++letters)⟩:=by
 induction letters generalizing before with
 | nil=>simp
 | cons c rest ih=>
  obtain ⟨hc,hrest⟩:=forall_mem_cons.mp h
  apply run_cons_eq_some.mpr
  refine ⟨⟨stack,.word (before++[c])⟩,by simp[Reader.step,hc],?_⟩
  grind

structure Reader.Settles (r target:Reader):Prop where
 settle:r.settle=some target
 notText:∀ raw escape isKey,r.mode≠.text raw escape isKey

theorem settles_deliver (v:Value) (stack:List Frame):(deliver v stack).Settles (deliver v stack):=by
 cases stack with
 | nil=>exact ⟨rfl,nofun⟩
 | cons frame=>cases frame<;>exact ⟨rfl,nofun⟩

theorem Reader.Settles.step (h:r.Settles target) (hc:isWord c=false):r.step c=target.next c:=by
 obtain ⟨hset,htext⟩:=h
 obtain ⟨stack,mode⟩:=r
 cases mode with
 | word=>simp[Reader.step,hc,hset]
 | text raw escape isKey=>exact absurd rfl (htext raw escape isKey)
 | _=>cases hset; rfl

def Mode.Starts (mode:Mode):Prop:=mode=.value∨mode=.first

theorem step_start {mode:Mode} (h:mode.Starts) (hspa:isSpace c=false) (hc:c ≠ ']'):
 Reader.step ⟨stack,mode⟩ c=startValue stack c:=by
 obtain rfl | rfl:=h<;>simp[Reader.step,Reader.next,hspa,hc]

theorem startValue_word (h:isWord c=true):startValue stack c=some ⟨stack,.word [c]⟩:=by
 have hne:c ≠ '"'∧c ≠ '['∧c ≠ '{' := by
  refine ⟨?_,?_,?_⟩<;>rintro rfl<;>exact absurd h (by decide)
 simp[startValue,h,hne]

theorem run_letters {mode:Mode} (hmode:mode.Starts) (hne:letters≠[]) (h:∀ c∈letters,isWord c=true)
 (hv:ofWord letters=some v):
 ∃ r,run Reader.step ⟨stack,mode⟩ letters=some r∧r.Settles (deliver v stack):=by
 obtain ⟨first,rest,rfl⟩:=exists_cons_of_ne_nil hne
 obtain ⟨hfirst,hrest⟩:=forall_mem_cons.mp h
 have hspace:isSpace first=false:=by
  grind [isWord]
 have hclose:first ≠ ']' := by
  rintro rfl
  exact absurd hfirst (by decide)
 refine ⟨⟨stack,.word (first::rest)⟩,?_,?_⟩
 · apply run_cons_eq_some.mpr
   refine ⟨⟨stack,.word [first]⟩,?_,run_word stack [first] hrest⟩
   rw[step_start hmode hspace hclose,startValue_word hfirst]
 · refine ⟨?_,nofun⟩
   simp[Reader.settle,hv]

end

/-! ### Numbers -/

theorem isWord_of_isDigit {c:Char} (h:c.isDigit=true):isWord c=true:=by
 simp only[Char.isDigit,Bool.and_eq_true,decide_eq_true_eq] at h
 have hne:∀ d:Char,d.val<48∨57<d.val→ c≠d:=by
  grind
 have hspace:isSpace c=false:=by
  simp[isSpace,hne ' ' (by decide),hne '\t' (by decide),hne '\r' (by decide),hne '\n' (by decide)]
 simp[isWord,hspace,hne ',' (by decide),hne ':' (by decide),hne '[' (by decide),hne ']' (by decide),
  hne '{' (by decide),hne '}' (by decide),hne '"' (by decide)]

variable {text:List Char}

theorem word_of_digits (h:text.all Char.isDigit=true):∀ c∈text,isWord c=true:=by
 intro c hc
 exact isWord_of_isDigit (all_eq_true.mp h c hc)

theorem word_of_isExponent (h:isExponent text=true):∀ c∈text,isWord c=true:=by
 cases text with
 | nil=>simp
 | cons e rest=>
  simp only[isExponent,Bool.and_eq_true,Bool.or_eq_true,decide_eq_true_eq] at h
  obtain ⟨he,hrest⟩:=h
  refine forall_mem_cons.mpr ⟨?_,?_⟩
  · obtain rfl | rfl:=he<;>decide
  · split at hrest<;>simp only[Bool.and_eq_true] at hrest
    · exact forall_mem_cons.mpr ⟨by decide,word_of_digits hrest.2⟩
    · exact forall_mem_cons.mpr ⟨by decide,word_of_digits hrest.2⟩
    · exact word_of_digits hrest.2

theorem word_of_span (h:∀ c∈text.dropWhile Char.isDigit,isWord c=true):∀ c∈text,isWord c=true:=by
 intro c hc
 rw[←takeWhile_append_dropWhile (p:=Char.isDigit) (l:=text),mem_append] at hc
 grind [isWord_of_isDigit,mem_takeWhile_imp]

theorem word_of_isFraction (h:isFraction text=true):∀ c∈text,isWord c=true:=by
 unfold isFraction at h
 split at h
 · simp only[Bool.and_eq_true] at h
   exact forall_mem_cons.mpr ⟨by decide,word_of_span (word_of_isExponent h.2)⟩
 · exact word_of_isExponent h

theorem word_of_isUnsigned (h:isUnsigned text=true):text≠[]∧∀ c∈text,isWord c=true:=by
 unfold isUnsigned at h
 split at h
 · simp at h
 next first more hdigi=>
  simp only[Bool.and_eq_true] at h
  refine ⟨?_,word_of_span (word_of_isFraction h.2)⟩
  rintro rfl
  simp at hdigi

theorem word_of_isNumber (h:isNumber text=true):text≠[]∧∀ c∈text,isWord c=true:=by
 unfold isNumber at h
 split at h
 · exact ⟨by simp,forall_mem_cons.mpr ⟨by decide,(word_of_isUnsigned h).2⟩⟩
 · exact word_of_isUnsigned h

theorem ofWord_number (h:isNumber text=true):ofWord text=some (.num text):=by
 have hnot:text≠"null".toList∧text≠"true".toList∧text≠"false".toList:=by
  refine ⟨?_,?_,?_⟩<;>rintro rfl<;>exact absurd h (by decide)
 rw[ofWord,if_neg hnot.1,if_neg hnot.2.1,if_neg hnot.2.2,if_pos h]

/-! ### Values -/

section
variable {v:Value} {r:Reader}

theorem renderItems_eq (items:List Value):renderItems items=items.map render:=by
 induction items with
 | nil=>rfl
 | cons v rest ih=>rw[renderItems,ih,map_cons]

theorem renderFields_eq (fields:List (List Char×Value)):
 renderFields fields=fields.map fun field=>quoted field.1 ++ ':' :: render field.2:=by
 induction fields with
 | nil=>rfl
 | cons field rest ih=>rw[renderFields,ih,map_cons]

def Read (v:Value):Prop:=
 ∀ (stack:List Frame) (mode:Mode),mode.Starts →
  ∃ r,run Reader.step ⟨stack,mode⟩ (render v)=some r∧r.Settles (deliver v stack)

theorem run_more_items {items:List Value} (h:∀ v∈items,Read v) (stack:List Frame) (before:List Value)
  (hr:r.Settles ⟨.arr before::stack,.after⟩):
  run Reader.step r ((items.map render).flatMap (',' :: ·)++[']']) =
   some (deliver (.arr (before++items)) stack):=by
 induction items generalizing r before with
 | nil=>
  have hcls:=hr.step (c := ']') (by decide)
  simpa[run,Reader.next,isSpace,goOn,close] using hcls
 | cons v rest ih=>
  obtain ⟨hv,hrest⟩:=forall_mem_cons.mp h
  obtain ⟨r',hrun,hset⟩:=hv (.arr before::stack) .value (.inl rfl)
  have hcom:=hr.step (c := ',') (by decide)
  have hlast:=ih hrest (before++[v]) hset
  rw[append_assoc,singleton_append] at hlast
  simp only[map_cons,flatMap_cons,cons_append,append_assoc]
  apply run_cons_eq_some.mpr
  refine ⟨⟨.arr before::stack,.value⟩,?_,?_⟩
  all_goals grind [Reader.next,isSpace,goOn,run_append_eq_some.mpr]

theorem read_arr {items:List Value} (h:∀ v∈items,Read v):Read (.arr items):=by
 intro stack mode hmode
 refine ⟨deliver (.arr items) stack,?_,settles_deliver _ _⟩
 rw[render,renderItems_eq,cons_append]
 apply run_cons_eq_some.mpr
 refine ⟨⟨.arr []::stack,.first⟩,by rw[step_start hmode (by decide) (by decide)]; rfl,?_⟩
 cases items with
 | nil=>rfl
 | cons v=>
  obtain ⟨hv,hrest⟩:=forall_mem_cons.mp h
  obtain ⟨r,hrun,hset⟩:=hv (.arr []::stack) .first (.inr rfl)
  rw[map_cons,commaSeparated,append_assoc]
  exact run_append_eq_some.mpr ⟨r,hrun,run_more_items hrest stack [v] hset⟩

theorem run_field {key:List Char} (hkey:IsRaw key) (hv:Read v) (stack:List Frame)
 (before:List (List Char×Value)) {mode:Mode} (hmode:mode=.firstKey∨mode=.key):
 ∃ r,run Reader.step ⟨.obj before []::stack,mode⟩ (quoted key ++ ':' :: render v)=some r∧
  r.Settles ⟨.obj (before++[(key,v)]) []::stack,.after⟩:=by
 obtain ⟨r,hrun,hset⟩:=hv (.obj before key::stack) .value (.inl rfl)
 refine ⟨r,?_,hset⟩
 simp only[quoted,cons_append,append_assoc]
 apply run_cons_eq_some.mpr
 refine ⟨⟨.obj before []::stack,.text [] .plain true⟩,?_,?_⟩
 · obtain rfl | rfl:=hmode<;>rfl
 · rw[run_quoted _ true hkey]
   simpa[endText,run,Reader.step,Reader.next,isSpace] using hrun

theorem run_more_fields {fields:List (List Char×Value)} (hkeys:∀ field∈fields,IsRaw field.1)
  (h:∀ field∈fields,Read field.2) (stack:List Frame) (before:List (List Char×Value))
  (hr:r.Settles ⟨.obj before []::stack,.after⟩):
  run Reader.step r
    ((fields.map fun field=>quoted field.1 ++ ':' :: render field.2).flatMap (',' :: ·)++['}']) =
   some (deliver (.obj (before++fields)) stack):=by
 induction fields generalizing r before with
 | nil=>
  have hcls:=hr.step (c := '}') (by decide)
  simpa[run,Reader.next,isSpace,goOn,close] using hcls
 | cons field rest ih=>
  obtain ⟨hkey,hkeys⟩:=forall_mem_cons.mp hkeys
  obtain ⟨hv,hrest⟩:=forall_mem_cons.mp h
  obtain ⟨r',hrun,hset⟩:=run_field hkey hv stack before (.inr rfl)
  have hcom:=hr.step (c := ',') (by decide)
  have hlast:=ih hkeys hrest (before++[field]) hset
  rw[append_assoc,singleton_append] at hlast
  simp only[map_cons,flatMap_cons]
  rw[cons_append,cons_append,append_assoc]
  apply run_cons_eq_some.mpr
  refine ⟨⟨.obj before []::stack,.key⟩,?_,?_⟩
  all_goals grind [Reader.next,isSpace,goOn,run_append_eq_some.mpr]

theorem read_obj {fields:List (List Char×Value)} (hkeys:∀ field∈fields,IsRaw field.1)
 (h:∀ field∈fields,Read field.2):Read (.obj fields):=by
 intro stack mode hmode
 refine ⟨deliver (.obj fields) stack,?_,settles_deliver _ _⟩
 rw[render,renderFields_eq,cons_append]
 apply run_cons_eq_some.mpr
 refine ⟨⟨.obj [] []::stack,.firstKey⟩,by rw[step_start hmode (by decide) (by decide)]; rfl,?_⟩
 cases fields with
 | nil=>rfl
 | cons field=>
  obtain ⟨hkey,hkeys⟩:=forall_mem_cons.mp hkeys
  obtain ⟨hv,hrest⟩:=forall_mem_cons.mp h
  obtain ⟨r,hrun,hset⟩:=run_field hkey hv stack [] (.inl rfl)
  rw[map_cons,commaSeparated,append_assoc]
  exact run_append_eq_some.mpr ⟨r,hrun,run_more_fields hkeys hrest stack [field] hset⟩

theorem read_of_valid (h:Valid v):Read v:=by
 induction h with
 | null=>
  intro stack mode hmode
  exact run_letters hmode (by decide) (all_eq_true.mp rfl) rfl
 | bool b=>
  intro stack mode hmode
  cases b<;>exact run_letters hmode (by decide) (all_eq_true.mp rfl) rfl
 | num hn=>
  intro stack mode hmode
  obtain ⟨hne,hlet⟩:=word_of_isNumber hn
  exact run_letters hmode hne hlet (ofWord_number hn)
 | @str raw hraw=>
  intro stack mode hmode
  refine ⟨deliver (.str raw) stack,?_,settles_deliver _ _⟩
  rw[render,quoted,cons_append]
  apply run_cons_eq_some.mpr
  refine ⟨⟨stack,.text [] .plain false⟩,by rw[step_start hmode (by decide) (by decide)]; rfl,?_⟩
  rw[run_quoted stack false hraw]
  rfl
 | arr _ ih=>exact read_arr ih
 | obj hkeys _ ih=>exact read_obj hkeys ih

theorem parse_render (h:Valid v):parse (render v)=some v:=by
 obtain ⟨r,hrun,hset⟩:=read_of_valid h [] .value (.inl rfl)
 simp[parse,hrun,Reader.finish,hset.settle,deliver]

end

/-! ## Strings -/

inductive Piece where
 | rune (c:Char)
 | code (n:ℕ)

def hexValue (c:Char):ℕ:=
 if c.isDigit then c.toNat - '0'.toNat else if c.toNat < 'a'.toNat then c.toNat - 'A'.toNat+10 else c.toNat - 'a'.toNat+10

def unescaped (c:Char):Char:=
 if c = 'b' then Char.ofNat 8
 else if c = 'f' then Char.ofNat 12
 else if c = 'n' then '\n'
 else if c = 'r' then '\r'
 else if c = 't' then '\t'
 else c

def pieces:List Char→List Piece
 | '\\' :: 'u' :: a::b::c::d::rest=>
  .code (((hexValue a*16+hexValue b)*16+hexValue c)*16+hexValue d)::pieces rest
 | '\\' :: c::rest=>.rune (unescaped c)::pieces rest
 | c::rest=>.rune c::pieces rest
 | []=>[]

def isPair (high low:ℕ):Bool:=0xD800≤high && high<0xDC00 && 0xDC00≤low && low<0xE000

def joinPieces:List Piece→List Char
 | .code high::.code low::rest=>
  if isPair high low then Char.ofNat ((high-0xD800)*0x400+(low-0xDC00)+0x10000)::joinPieces rest
  else runeOf high::joinPieces (.code low::rest)
 | .code n::rest=>runeOf n::joinPieces rest
 | .rune c::rest=>c::joinPieces rest
 | []=>[]
where
 runeOf (n:ℕ):Char:=if 0xD800≤n∧n<0xE000 then Char.ofNat 0xFFFD else Char.ofNat n

def unquote (raw:List Char):String:=String.ofList (joinPieces (pieces raw))

def escapeRune (c:Char):List Char:=
 if c = '"'∨c = '\\' then ['\\',c]
 else if c.toNat=8 then ['\\','b']
 else if c.toNat=12 then ['\\','f']
 else if c = '\n' then ['\\','n']
 else if c = '\r' then ['\\','r']
 else if c = '\t' then ['\\','t']
 else if c.toNat<0x20∨c = '<'∨c = '>'∨c = '&'∨c.toNat=0x2028∨c.toNat=0x2029 then
  ['\\','u',Bytes.hexDigit (c.toNat/4096),Bytes.hexDigit (c.toNat/256 % 16),
   Bytes.hexDigit (c.toNat/16 % 16),Bytes.hexDigit (c.toNat % 16)]
 else [c]

def escape (text:String):List Char:=text.toList.flatMap escapeRune

theorem joinPieces_code {n:ℕ} (h:n<0xD800) (rest:List Piece):
 joinPieces (.code n::rest)=Char.ofNat n::joinPieces rest:=by
 have hrune:joinPieces.runeOf n=Char.ofNat n:=if_neg (by omega)
 cases rest with
 | nil=>simp[joinPieces,hrune]
 | cons next more=>
  cases next with
  | rune=>simp[joinPieces,hrune]
  | code low=>
   grind [isPair,joinPieces]

theorem hexValue_hexDigit {n:ℕ} (h:n<16):hexValue (Bytes.hexDigit n)=n:=by
 revert n
 decide

theorem code_lt {c:Char}
 (h:c.toNat<0x20∨c = '<'∨c = '>'∨c = '&'∨c.toNat=0x2028∨c.toNat=0x2029):c.toNat<0xD800:=by
 obtain h | rfl | rfl | rfl | h | h:=h
 all_goals grind

theorem pieces_letter {letter:Char} (h:letter ≠ 'u') (rest:List Char):
 pieces ('\\' :: letter::rest)=.rune (unescaped letter)::pieces rest:=by
 simp[pieces,h]

theorem pieces_escapeRune (c:Char):
 ∃ piece,(∀ rest,pieces (escapeRune c++rest)=piece::pieces rest)∧
  ∀ rest,joinPieces (piece::rest)=c::joinPieces rest:=by
 have hrune:∀ rest,joinPieces (.rune c::rest)=c::joinPieces rest:=fun rest=>by simp[joinPieces]
 have hlet:∀ letter,letter ≠ 'u' → unescaped letter=c →
   ∀ rest,pieces (['\\',letter]++rest)=.rune c::pieces rest:=by
  rintro letter hne rfl rest
  exact pieces_letter hne rest
 unfold escapeRune
 split_ifs with hquote hback hform hline hret htab hcode
 · refine ⟨.rune c,hlet c ?_ ?_,hrune⟩<;>obtain rfl | rfl:=hquote<;>decide
 · refine ⟨.rune c,hlet 'b' (by decide) ?_,hrune⟩
   rw[←Char.ofNat_toNat c,hback]
   decide
 · refine ⟨.rune c,hlet 'f' (by decide) ?_,hrune⟩
   rw[←Char.ofNat_toNat c,hform]
   decide
 · exact ⟨.rune c,hlet 'n' (by decide) hline.symm,hrune⟩
 · exact ⟨.rune c,hlet 'r' (by decide) hret.symm,hrune⟩
 · exact ⟨.rune c,hlet 't' (by decide) htab.symm,hrune⟩
 · have hsma:=code_lt hcode
   refine ⟨.code c.toNat,fun rest=>?_,fun rest=>?_⟩
   · simp only[cons_append,nil_append,pieces]
     rw[hexValue_hexDigit (by omega),hexValue_hexDigit (by omega),hexValue_hexDigit (by omega),
      hexValue_hexDigit (by omega)]
     congr 2
     omega
   · rw[joinPieces_code hsma,Char.ofNat_toNat]
 · refine ⟨.rune c,fun rest=>?_,hrune⟩
   have hsla:c ≠ '\\' := fun h=>hquote (.inr h)
   rw[singleton_append,pieces.eq_3 _ _ (by simp[hsla]) (by simp[hsla])]

theorem unquote_escape (text:String):unquote (escape text)=text:=by
 have hruns:∀ runes:List Char,joinPieces (pieces (runes.flatMap escapeRune))=runes:=by
  intro runes
  induction runes with
  | nil=>simp[pieces,joinPieces]
  | cons c rest ih=>
   obtain ⟨piece,hpie,hjoin⟩:=pieces_escapeRune c
   rw[flatMap_cons,hpie,hjoin,ih]
 rw[unquote,escape,hruns,String.ofList_toList]

theorem escapeRune_raw (c:Char):run Escape.step .plain (escapeRune c)=some .plain:=by
 unfold escapeRune
 split_ifs with hquote hback hform hline hret htab hcode
 · obtain rfl | rfl:=hquote<;>rfl
 · rfl
 · rfl
 · rfl
 · rfl
 · rfl
 · have hsma:=code_lt hcode
   have hhex:∀ n,n<16→ isHex (Bytes.hexDigit n)=true:=by decide
   simp[run,Escape.step,hhex (c.toNat/4096) (by omega),hhex (c.toNat/256 % 16) (by omega),
    hhex (c.toNat/16 % 16) (by omega),hhex (c.toNat % 16) (by omega)]
 · grind [run,Escape.step]

theorem isRaw_escape (text:String):IsRaw (escape text):=by
 unfold IsRaw escape
 induction text.toList with
 | nil=>rfl
 | cons c rest ih=>
  rw[flatMap_cons]
  exact run_append_eq_some.mpr ⟨.plain,escapeRune_raw c,ih⟩

end BolterTrader.Foundations.Json
