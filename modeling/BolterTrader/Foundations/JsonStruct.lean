import BolterTrader.Foundations.Encodings
import BolterTrader.Foundations.Json
import BolterTrader.Foundations.Rfc3339

/-! JSON values as `json.Unmarshal` reads them into the fields of a struct and
`json.Marshal` writes them: strings, integers, booleans, byte slices and times. -/
namespace BolterTrader.Foundations.Json
open List Option

def structField (names:List String) (key:String):Option String:=
 (names.find? (· = key)).or (names.find? fun name=>GoText.equalFold name key)

section
variable {α:Type*}

def setField (names:List String) (set:α→String→Value→Option α) (target:α) (field:List Char×Value):
 Option α:=
 match structField names (unquote field.1) with
 | some name=>set target name field.2
 | none=>some target

def readStruct (names:List String) (set:α→String→Value→Option α) (zero:α):Value→Option α
 | .null=>some zero
 | .obj fields=>fields.foldlM (setField names set) zero
 | _=>none

theorem readStruct_induction {names:List String} {set:α→String→Value→Option α} {zero result:α} {v:Value}
 (P:α→Prop) (hzero:P zero) (hset:∀ tgt name fd next,P tgt→ set tgt name fd=some next→P next)
 (h:readStruct names set zero v=some result):P result:=by
 cases v with
 | null=>
  cases h
  exact hzero
 | obj fds=>
  rw[readStruct] at h
  induction fds generalizing zero with
  | nil=>
   cases h
   exact hzero
  | cons fd fds ih=>
   rw[foldlM_cons] at h
   obtain ⟨next,hnext,hrest⟩:=bind_eq_some_iff.mp h
   grind [setField]
 | _=>cases h

def readSlice (read:Value→Option α):Value→Option (List α)
 | .null=>some []
 | .arr items=>items.mapM read
 | _=>none

theorem exists_of_mem_readSlice {read:Value→Option α} {v:Value} {out:List α} (h:readSlice read v=some out)
 {a:α} (ha:a∈out):∃ item,read item=some a:=by
 cases v with
 | null=>
  cases h
  simp at ha
 | arr its=>
  rw[readSlice] at h
  induction its generalizing out with
  | nil=>
   cases h
   simp at ha
  | cons item its ih=>
   rw[mapM_cons] at h
   obtain ⟨head,hfst,h⟩:=bind_eq_some_iff.mp h
   obtain ⟨rest,hrest,h⟩:=bind_eq_some_iff.mp h
   grind
 | _=>cases h

end

def readString (old:String):Value→Option String
 | .null=>some old
 | .str raw=>some (unquote raw)
 | _=>none

def readInt (old:Int):Value→Option Int
 | .null=>some old
 | .num literal=>Decimal.parseInt64? (String.ofList literal)
 | _=>none

def readInt64 (old:Int64) (v:Value):Option Int64:=(readInt old.toInt v).map Int64.ofInt

def readBool (old:Bool):Value→Option Bool
 | .null=>some old
 | .bool b=>some b
 | _=>none

def readByte (old:UInt8):Value→Option UInt8
 | .null=>some old
 | .num literal=>
  ((Decimal.parseInt64? (String.ofList literal)).filter fun n=>0≤n∧n<256).map fun n=>UInt8.ofNat n.toNat
 | _=>none

def readBytes (old:List UInt8):Value→Option (List UInt8)
 | .null=>some []
 | .str raw=>Base64.std.decode (unquote raw).toList
 | .arr items=>(items.zipIdx).mapM fun item=>readByte (old.getD item.2 0) item.1
 | _=>none

structure TimeParser where
 parse:List Char→Option Rfc3339.Time
 whole:∀ text t,parse text=some t→ t.offset.tmod 60=0

def readTime (parser:TimeParser) (old:Rfc3339.Time):Value→Option Rfc3339.Time
 | .null=>some old
 | .str raw=>(Rfc3339.parse raw).or (parser.parse raw)
 | _=>none

/-! ## Writing -/

def stringValue (text:String):Value:=.str (escape text)
def intValue (n:Int):Value:=.num (toString n).toList
def bytesValue (bytes:List UInt8):Value:=.str (Base64.std.encode bytes)

def omitEmpty (name:String) (isEmpty:Bool) (v:Value):List (List Char×Value):=
 if isEmpty then [] else [(name.toList,v)]

def toBytes (v:Value):List UInt8:=Utf8.encode (render v)
def ofBytes? (bytes:List UInt8):Option Value:=parse (Utf8.decode bytes)

/-! ## What is written is read back -/

theorem ofBytes?_toBytes {v:Value} (h:Valid v):ofBytes? (toBytes v)=some v:=by
 rw[ofBytes?,toBytes,Utf8.decode_encode,parse_render h]

section
variable {α β:Type*} [DecidableEq β] {names:List String} {name:String} {v:Value}

theorem foldlM_omitEmpty {set:α→String→Value→Option α} (upd:α→β→α) {tgt:α} {b zero:β}
 (hname:structField names (unquote name.toList)=some name) (hset:set tgt name v=some (upd tgt b))
 (hzero:upd tgt zero=tgt):
 (omitEmpty name (b=zero) v).foldlM (setField names set) tgt=some (upd tgt b):=by
 unfold omitEmpty
 split
 next hnil=>
  grind
 next=>
  grind [setField]

theorem foldlM_setField_append {set:α→String→Value→Option α} {st1 tgt result:α}
 {fds more:List (List Char×Value)} (h:fds.foldlM (setField names set) st1=some tgt)
 (hmore:more.foldlM (setField names set) tgt=some result):
 (fds++more).foldlM (setField names set) st1=some result:=by
 rw[foldlM_append,h]
 exact hmore

theorem valid_obj {fds:List (List Char×Value)} (h:∀ fd∈fds,IsRaw fd.1∧Valid fd.2):
 Valid (.obj fds):=
 .obj (fun fd hfie=>(h fd hfie).1) fun fd hfie=>(h fd hfie).2

theorem valid_omitEmpty (iem:Bool) (hname:IsRaw name.toList) (hv:Valid v):
 ∀ fd∈omitEmpty name iem v,IsRaw fd.1∧Valid fd.2:=by
 grind [omitEmpty,mem_singleton.mp]

end

def IsPlain (c:Char):Prop:=escapeRune c=[c]

instance : DecidablePred IsPlain:=fun c=>inferInstanceAs (Decidable (escapeRune c=[c]))

variable {text:List Char}

theorem escape_ofList (h:∀ c∈text,IsPlain c):escape (String.ofList text)=text:=by
 rw[escape,String.toList_ofList]
 induction text with
 | nil=>rfl
 | cons c text ih=>
  obtain ⟨hc,htext⟩:=forall_mem_cons.mp h
  rw[flatMap_cons,hc,ih htext]
  rfl

theorem isRaw_of_plain (h:∀ c∈text,IsPlain c):IsRaw text:=by
 have hraw:=isRaw_escape (String.ofList text)
 rwa[escape_ofList h] at hraw

theorem unquote_of_plain (h:∀ c∈text,IsPlain c):unquote text=String.ofList text:=by
 have hquote:=unquote_escape (String.ofList text)
 rwa[escape_ofList h] at hquote

@[simp] theorem readString_stringValue (old text:String):readString old (stringValue text)=some text:=by
 rw[stringValue,readString,unquote_escape]

theorem valid_stringValue (text:String):Valid (stringValue text):=.str (isRaw_escape text)

theorem isUnsigned_toDigits (n:ℕ):isUnsigned (Nat.toDigits 10 n)=true:=by
 have hdigi:∀ c∈Nat.toDigits 10 n,c.isDigit=true:=fun c hc=>Decimal.isDigit_of_mem_toDigits hc
 have htake:(Nat.toDigits 10 n).takeWhile Char.isDigit=Nat.toDigits 10 n:=takeWhile_eq_self_iff.mpr hdigi
 have hdrop:(Nat.toDigits 10 n).dropWhile Char.isDigit=[]:=dropWhile_eq_nil_iff.mpr hdigi
 rw[isUnsigned,htake,hdrop]
 obtain ⟨head,more,heq⟩:=exists_cons_of_ne_nil (Nat.toDigits_ne_nil (b:=10) (n:=n))
 grind [Decimal.toDigits_of_zero_cons,isFraction,isExponent]

theorem isNumber_signed (n:Int):isNumber (Decimal.signed 0 n)=true:=by
 unfold Decimal.signed
 rw[Decimal.pointed_zero]
 split
 · exact isUnsigned_toDigits n.natAbs
 · unfold isNumber
   split
   next rest hsign=>
    have hmem: '-' ∈ Nat.toDigits 10 n.natAbs:=hsign▸mem_cons_self
    exact absurd (Decimal.isDigit_of_mem_toDigits hmem) (by decide)
   next=>exact isUnsigned_toDigits n.natAbs

theorem valid_intValue (n:Int):Valid (intValue n):=by
 refine .num ?_
 rw[Decimal.toString_int,String.toList_ofList]
 exact isNumber_signed n

@[simp] theorem readInt64_intValue (old n:Int64):readInt64 old (intValue n.toInt)=some n:=by
 have hlo:=Int64.le_toInt n
 have hhi:=Int64.toInt_lt n
 have hfits:Decimal.fitsInt64 n.toInt=true:=by
  rw[Decimal.fitsInt64,decide_eq_true_eq]
  omega
 rw[readInt64,intValue,readInt,String.ofList_toList,Decimal.parseInt64?_toString hfits,map_some,
  Int64.ofInt_toInt]

theorem isPlain_digit:∀ value<64,IsPlain (Base64.digit Base64.std.last value):=by decide

theorem isPlain_encode (bs:List UInt8):∀ c∈Base64.std.encode bs,IsPlain c:=by
 intro c hc
 obtain hdig | hpad:=mem_append.mp hc
 · grind [isPlain_digit,Base64.sextets_lt]
 · rw[Base64.eq_pad_of_mem_padding hpad]
   decide

@[simp] theorem readBytes_bytesValue (old bytes:List UInt8):readBytes old (bytesValue bytes)=some bytes:=by
 rw[bytesValue,readBytes,unquote_of_plain (isPlain_encode bytes),String.toList_ofList,Base64.decode_encode]

theorem valid_bytesValue (bs:List UInt8):Valid (bytesValue bs):=.str (isRaw_of_plain (isPlain_encode bs))

theorem isPlain_of_isDigit {c:Char} (h:c.isDigit=true):IsPlain c:=by
 simp only[Char.isDigit,Bool.and_eq_true,decide_eq_true_eq,ge_iff_le,UInt32.le_iff_toNat_le] at h
 have hcode:48≤c.toNat∧c.toNat≤57:=h
 have hne:∀ d:Char,d.toNat<48∨57<d.toNat→ c≠d:=by
  rintro d hd rfl
  omega
 unfold IsPlain escapeRune
 rw[if_neg,if_neg,if_neg,if_neg,if_neg,if_neg,if_neg]
 · simp only[not_or]
   exact ⟨by omega,hne '<' (by decide),hne '>' (by decide),hne '&' (by decide),by omega,by omega⟩
 · exact hne '\t' (by decide)
 · exact hne '\r' (by decide)
 · exact hne '\n' (by decide)
 · omega
 · omega
 · simp only[not_or]
   exact ⟨hne '"' (by decide),hne '\\' (by decide)⟩

theorem isPlain_of_isTimeChar {c:Char} (h:Rfc3339.isTimeChar c=true):IsPlain c:=by
 simp only[Rfc3339.isTimeChar,Bool.or_eq_true,contains_iff_mem] at h
 obtain hdig | hmark:=h
 · exact isPlain_of_isDigit hdig
 · have hmrk:∀ d∈['-','T',':','.','Z','+'],IsPlain d:=by simp[IsPlain,escapeRune]
   exact hmrk c hmark

theorem isPlain_format {t:Rfc3339.Time} (h:t.format=some text):∀ c∈text,IsPlain c:=
 fun c hc=>isPlain_of_isTimeChar (Rfc3339.isTimeChar_format h c hc)

theorem readTime_format (prs:TimeParser) (old:Rfc3339.Time) {t:Rfc3339.Time} (h:t.format=some text):
 readTime prs old (.str text)=some t.written:=by
 rw[readTime,Rfc3339.parse_format h,some_or]

/-! ## Times that are read -/

theorem whole_of_readTime {prs:TimeParser} {old t:Rfc3339.Time} {v:Value}
 (hold:old.offset.tmod 60=0) (h:readTime prs old v=some t):t.offset.tmod 60=0:=by
 cases v with
 | null=>
  cases h
  exact hold
 | str raw=>
  cases hpar : Rfc3339.parse raw with
  | some=>
   grind [readTime,Rfc3339.whole_of_parse]
  | none=>
   rw[readTime,hpar,none_or] at h
   exact prs.whole raw t h
 | _=>cases h

end BolterTrader.Foundations.Json
