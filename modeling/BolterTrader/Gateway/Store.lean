import BolterTrader.Foundations.Collections
import BolterTrader.Foundations.Fallible
import BolterTrader.Foundations.JsonStruct
import BolterTrader.Foundations.KeyedRows
import Mathlib.Data.Prod.Lex

/-! The encrypted file of the gateway's accounts (`gateway/store/store.go`,
`secretstore/cipher.go`): a JSON array of records whose credential bundles are sealed one
by one. -/
namespace BolterTrader.AccountStore
open Foundations Json KeyedRows Rfc3339 List Option

/-! ## The cipher -/

structure Box where
 nonceSize:ℕ
 overhead:ℕ
 openSealed:(nonce sealed data:List UInt8)→Option (List UInt8)

structure Aead extends Box where
 sealMaterial:(nonce material data:List UInt8)→List UInt8
 length_seal:∀ nonce material data,(sealMaterial nonce material data).length=material.length+overhead
 open_seal:∀ nonce material data,nonce.length=nonceSize →
  openSealed nonce (sealMaterial nonce material data) data=some material

def additionalData (accountId venue:String):List UInt8:=
 Utf8.encode ("bolter-account-v1\x00".toList++(accountId.toList ++ '\x00' :: venue.toList))

def Aead.sealBundle (aead:Aead) (accountId venue:String) (material:List UInt8) (random:Option (ℕ→UInt8)):
 Option (List UInt8):=
 if accountId=""∨venue=""∨material=[] then none
 else random.map fun random=>
  let nonce:=(List.range aead.nonceSize).map random
  nonce++aead.sealMaterial nonce material (additionalData accountId venue)

def Box.openBundle (box:Box) (accountId venue:String) (sealed:List UInt8):Option (List UInt8):=
 if sealed.length<box.nonceSize+box.overhead then none
 else box.openSealed (sealed.take box.nonceSize) (sealed.drop box.nonceSize) (additionalData accountId venue)

/-! ## Records -/

def zeroTime:Time:={seconds:=-62135596800}

structure Account where
 id:String:=""
 venue:String:=""
 label:String:=""
 createdAt:Time:=zeroTime

structure Record extends Account where
 sealed:List UInt8:=[]

def Record.key (r:Record):String:=r.id
def recordFields:List String:=["id","venue","label","createdAt","sealed"]

def Record.set (parser:TimeParser) (r:Record):String→Value→Option Record
 | "id",v=>(readString r.id v).map fun id=>{r with id}
 | "venue",v=>(readString r.venue v).map fun venue=>{r with venue}
 | "label",v=>(readString r.label v).map fun label=>{r with label}
 | "createdAt",v=>(readTime parser r.createdAt v).map fun createdAt=>{r with createdAt}
 | "sealed",v=>(readBytes r.sealed v).map fun sealed=>{r with sealed}
 | _,_=>some r

def readRecord (parser:TimeParser):Value→Option Record:=readStruct recordFields (Record.set parser) {}

def Record.value (r:Record):Option Value:=
 r.createdAt.format.map fun createdAt=>
  .obj [("id".toList,stringValue r.id),("venue".toList,stringValue r.venue),("label".toList,stringValue r.label),
   ("createdAt".toList,.str createdAt),("sealed".toList,bytesValue r.sealed)]

def marshal (records:List Record):Option (List UInt8):=
 (records.mapM Record.value).map fun values=>Utf8.encode (render (.arr values))

def unmarshal (parser:TimeParser) (data:List UInt8):Option (List Record):=
 (Json.parse (Utf8.decode data)).bind (readSlice (readRecord parser))

/-! ## The store -/

inductive OpenFailure where
 | corrupt
 | undecryptable (id:String)

def load (box:Box) (records:List Record) (item:Record):Except OpenFailure (List Record):=
 match box.openBundle item.id item.venue item.sealed with
 | some _=>.ok (put Record.key records item)
 | none=>.error (.undecryptable item.id)

def openStore (box:Box) (parser:TimeParser):Option (List UInt8)→Except OpenFailure (List Record)
 | none=>.ok []
 | some data=>
  match unmarshal parser data with
  | none=>.error .corrupt
  | some records=>records.foldlM (load box) []

inductive FileFault where
 | mkdirAll | createTemp | chmod | write | sync | close | rename
 deriving DecidableEq

inductive Failure where
 | notFound | exists | unavailable | integrity | encode
 | file (fault:FileFault)
 deriving DecidableEq

def get (box:Box) (records:List Record) (id:String):Except Failure (Account×List UInt8):=
 match last? Record.key records id with
 | none=>.error .notFound
 | some item=>
  match box.openBundle item.id item.venue item.sealed with
  | some plain=>.ok (item.toAccount,plain)
  | none=>.error .integrity

def createdBefore (a b:Record):Bool:=
 a.createdAt.seconds<b.createdAt.seconds ||
  (a.createdAt.seconds=b.createdAt.seconds && a.createdAt.nanos<b.createdAt.nanos)

structure State where
 file:Option (List UInt8):=none
 records:List Record:=[]

structure Flush where
 sort:SliceSort createdBefore
 fault:Option FileFault:=none

inductive Operation where
 | create (account:Account) (bundle:List UInt8) (random:Option (ℕ→UInt8)) (flush:Flush)
 | delete (id:String) (flush:Flush)

def Flush.write (flush:Flush) (records:List Record):Except Failure (List UInt8):=
 match marshal (flush.sort.sort records),flush.fault with
 | none,_=>.error .encode
 | some _,some fault=>.error (.file fault)
 | some data,none=>.ok data

variable (aead:Aead)

def State.create (s:State) (account:Account) (bundle:List UInt8) (random:Option (ℕ→UInt8)) (flush:Flush):
 State×Option Failure:=
 match aead.sealBundle account.id account.venue bundle random with
 | none=>(s,some .unavailable)
 | some sealed=>
  if (last? Record.key s.records account.id).isSome then (s,some .exists)
  else
   let records:=put Record.key s.records {toAccount:=account,sealed}
   match flush.write records with
   | .error failure=>({s with records:=erase Record.key records account.id},some failure)
   | .ok data=>({file:=some data,records},none)

def State.delete (s:State) (id:String) (flush:Flush):State×Option Failure:=
 match last? Record.key s.records id with
 | none=>(s,some .notFound)
 | some item=>
  let records:=erase Record.key s.records id
  match flush.write records with
  | .error failure=>({s with records:=put Record.key records item},some failure)
  | .ok data=>({file:=some data,records},none)

def State.perform (s:State):Operation→State×Option Failure
 | .create account bundle random flush=>s.create aead account bundle random flush
 | .delete id flush=>s.delete id flush

def State.performAll (s:State) (operations:List Operation):State:=
 operations.foldl (fun s operation=>(s.perform aead operation).1) s

/-! ## A record is read back as it was written -/

def Record.written (r:Record):Record:={r with createdAt:=r.createdAt.written}

theorem Record.key_written (r:Record):r.written.key=r.key:=rfl

section
variable (parser:TimeParser) {r:Record} {v:Value}

theorem readRecord_value (h:r.value=some v):readRecord parser v=some r.written:=by
 obtain ⟨createdAt,hfor,rfl⟩:=map_eq_some_iff.mp h
 have hid:structField recordFields (unquote "id".toList)=some "id" := by decide
 have hven:structField recordFields (unquote "venue".toList)=some "venue" := by decide
 have hlab:structField recordFields (unquote "label".toList)=some "label" := by decide
 have hcr:structField recordFields (unquote "createdAt".toList)=some "createdAt" := by decide
 have hsea:structField recordFields (unquote "sealed".toList)=some "sealed" := by decide
 simp only[readRecord,readStruct,foldlM_cons,foldlM_nil,setField,hid,hven,hlab,hcr,hsea,
  Record.set,readString_stringValue,readBytes_bytesValue,readTime_format parser _ hfor,map_some,
  bind_eq_bind,bind_some,Option.pure_def]
 rfl

theorem valid_value (h:r.value=some v):Valid v:=by
 obtain ⟨createdAt,hfor,rfl⟩:=map_eq_some_iff.mp h
 have hkeys:∀ name∈recordFields,IsRaw name.toList:=by decide
 refine .obj ?_ ?_
 · intro field hfie
   simp only[mem_cons,not_mem_nil,or_false] at hfie
   obtain rfl | rfl | rfl | rfl | rfl:=hfie<;>exact hkeys _ (by decide)
 · intro field hfie
   simp only[mem_cons,not_mem_nil,or_false] at hfie
   obtain rfl | rfl | rfl | rfl | rfl:=hfie
   · exact valid_stringValue r.id
   · exact valid_stringValue r.venue
   · exact valid_stringValue r.label
   · exact .str (isRaw_of_plain (isPlain_format hfor))
   · exact valid_bytesValue r.sealed

theorem readRecords_values {records:List Record} {values:List Value} (h:records.mapM Record.value=some values):
 values.mapM (readRecord parser)=some (records.map Record.written)∧∀ v∈values,Valid v:=by
 induction records generalizing values with
 | nil=>
  cases h
  exact ⟨rfl,by simp⟩
 | cons r records ih=>
  rw[mapM_cons] at h
  obtain ⟨first,hfst,h⟩:=bind_eq_some_iff.mp h
  obtain ⟨rest,hrest,h⟩:=bind_eq_some_iff.mp h
  cases h
  obtain ⟨hread,hval⟩:=ih hrest
  refine ⟨?_,forall_mem_cons.mpr ⟨valid_value hfst,hval⟩⟩
  rw[mapM_cons,readRecord_value parser hfst,hread]
  rfl

theorem unmarshal_marshal {records:List Record} {data:List UInt8} (h:marshal records=some data):
 unmarshal parser data=some (records.map Record.written):=by
 obtain ⟨values,hvalu,rfl⟩:=map_eq_some_iff.mp h
 obtain ⟨hread,hval⟩:=readRecords_values parser hvalu
 rw[unmarshal,Utf8.decode_encode,parse_render (.arr hval)]
 exact hread

end

/-! ## Opening a file -/

section
variable {box:Box} {parser:TimeParser} {records items:List Record}

def Box.Opens (box:Box) (r:Record):Prop:=(box.openBundle r.id r.venue r.sealed).isSome=true

instance (box:Box):DecidablePred box.Opens:=fun r=>
 inferInstanceAs (Decidable ((box.openBundle r.id r.venue r.sealed).isSome=true))

theorem load_eq_ok {item:Record} {next:List Record}:
 load box records item=.ok next ↔ box.Opens item∧next=put Record.key records item:=by
 unfold load Box.Opens
 grind

theorem foldlM_load_eq_ok {start:List Record}:
 items.foldlM (load box) start=.ok records ↔
  (∀ item∈items,box.Opens item)∧records=items.foldl (put Record.key) start:=by
 induction items generalizing start with
 | nil=>simp[foldlM_nil,pure,Except.pure,eq_comm]
 | cons item items ih=>
  rw[foldlM_cons,forall_mem_cons,foldl_cons]
  constructor
  · intro h
    obtain ⟨next,hload,hrest⟩:=Fallible.bind_eq_ok h
    grind [load_eq_ok.mp]
  · rintro ⟨⟨hope,hit⟩,hrec⟩
    rw[load_eq_ok.mpr ⟨hope,rfl⟩]
    exact ih.mpr ⟨hit,hrec⟩

theorem of_openStore {file:Option (List UInt8)} (h:openStore box parser file=.ok records):
 Unique Record.key records∧
  ∀ r∈records,box.Opens r∧∃ data items,file=some data∧unmarshal parser data=some items∧r∈items:=by
 have hnil:Unique Record.key ([]:List Record):=nodup_nil
 cases file with
 | none=>
  cases h
  exact ⟨hnil,by simp⟩
 | some data=>
  rw[openStore] at h
  cases hit : unmarshal parser data with
  | none=>
   rw[hit] at h
   cases h
  | some items=>
   rw[hit] at h
   obtain ⟨hope,rfl⟩:=foldlM_load_eq_ok.mp h
   refine ⟨hnil.foldl_put items,?_⟩
   intro r hr
   have hmem:r∈items:=(mem_foldl_put hr).resolve_left (by simp)
   grind

end

/-! ## Times in whole minutes -/

def Whole (t:Time):Prop:=t.offset.tmod 60=0

instance : DecidablePred Whole:=fun t=>inferInstanceAs (Decidable (t.offset.tmod 60=0))

theorem whole_of_readRecord {parser:TimeParser} {v:Value} {r:Record} (h:readRecord parser v=some r):
 Whole r.createdAt:=by
 refine readStruct_induction (fun r:Record=>Whole r.createdAt) (by decide) ?_ h
 intro target name field next htar hset
 unfold Record.set at hset
 split at hset
 · obtain ⟨id,-,rfl⟩:=map_eq_some_iff.mp hset
   exact htar
 · obtain ⟨venue,-,rfl⟩:=map_eq_some_iff.mp hset
   exact htar
 · obtain ⟨label,-,rfl⟩:=map_eq_some_iff.mp hset
   exact htar
 · obtain ⟨createdAt,htime,rfl⟩:=map_eq_some_iff.mp hset
   exact whole_of_readTime htar htime
 · obtain ⟨bytes,-,rfl⟩:=map_eq_some_iff.mp hset
   exact htar
 · exact some.inj hset▸htar

theorem whole_of_unmarshal {parser:TimeParser} {data:List UInt8} {items:List Record}
 (h:unmarshal parser data=some items):∀ r∈items,Whole r.createdAt:=by
 obtain ⟨v,-,hread⟩:=bind_eq_some_iff.mp h
 intro r hr
 obtain ⟨item,hitem⟩:=exists_of_mem_readSlice hread hr
 exact whole_of_readRecord hitem

theorem Record.written_eq {r:Record} (h:Whole r.createdAt):r.written=r:=by
 rw[Record.written,Time.written_eq h]

/-! ## What the store keeps -/

def Record.instant (r:Record):Record:={r with createdAt:={r.createdAt with offset:=0}}

/-- Opening the file again gives the records in memory. -/
def State.Reopens (box:Box) (parser:TimeParser) (s:State):Prop:=
 ∃ records,openStore box parser s.file=.ok records∧
  ∀ id,(last? Record.key records id).map Record.instant=(last? Record.key s.records id).map Record.instant

structure State.Sound (box:Box) (parser:TimeParser) (s:State):Prop where
 unique:Unique Record.key s.records
 whole:∀ r∈s.records,Whole r.createdAt
 opens:∀ r∈s.records,box.Opens r
 reopens:s.Reopens box parser

section
variable {aead} {box:Box} {parser:TimeParser} {s:State} {records:List Record} {flush:Flush}

theorem sound_of_openStore {file:Option (List UInt8)} (h:openStore box parser file=.ok records):
 State.Sound box parser {file,records}:=by
 obtain ⟨hunique,heach⟩:=of_openStore h
 refine ⟨hunique,?_,fun r hr=>(heach r hr).1,records,h,fun _=>rfl⟩
 intro r hr
 obtain ⟨-,data,items,-,hit,hmem⟩:=heach r hr
 exact whole_of_unmarshal hit r hmem

theorem State.Sound.rolledBack (h:s.Sound box parser) (hunique:Unique Record.key records)
 (hmem:∀ r∈records,r∈s.records)
 (hsame:∀ id,last? Record.key records id=last? Record.key s.records id):
 State.Sound box parser {s with records}:=by
 refine ⟨hunique,fun r hr=>h.whole r (hmem r hr),fun r hr=>h.opens r (hmem r hr),?_⟩
 obtain ⟨reopened,hopen,hloo⟩:=h.reopens
 exact ⟨reopened,hopen,fun id=>by rw[hloo,hsame]⟩

theorem write_eq_ok {data:List UInt8} (h:flush.write records=.ok data):
 marshal (flush.sort.sort records)=some data:=by
 grind [Flush.write]

theorem openStore_marshal (parser:TimeParser) {items:List Record} {data:List UInt8}
 (hope:∀ r∈items,box.Opens r) (h:marshal items=some data):
 openStore box parser (some data)=.ok ((items.map Record.written).foldl (put Record.key) []):=by
 simp only[openStore,unmarshal_marshal parser h]
 refine foldlM_load_eq_ok.mpr ⟨?_,rfl⟩
 intro item hitem
 obtain ⟨r,hr,rfl⟩:=mem_map.mp hitem
 exact hope r hr

theorem openStore_of_write (parser:TimeParser) {data:List UInt8} (hunique:Unique Record.key records)
 (hope:∀ r∈records,box.Opens r) (h:flush.write records=.ok data):
 ∃ reopened,openStore box parser (some data)=.ok reopened∧
  ∀ id,last? Record.key reopened id=(last? Record.key records id).map Record.written:=by
 have hperm:=flush.sort.perm records
 refine ⟨_,openStore_marshal parser (fun r hr=>hope r (hperm.mem_iff.mp hr)) (write_eq_ok h),?_⟩
 intro id
 rw[last?_foldl_put,last?_nil,or_none,last?_map Record.key_written,hunique.last?_perm hperm]

theorem sound_of_write {data:List UInt8} (hunique:Unique Record.key records)
 (hwh:∀ r∈records,Whole r.createdAt) (hope:∀ r∈records,box.Opens r)
 (h:flush.write records=.ok data):State.Sound box parser {file:=some data,records}:=by
 obtain ⟨reopened,hopen,hloo⟩:=openStore_of_write parser hunique hope h
 refine ⟨hunique,hwh,hope,reopened,hopen,fun id=>?_⟩
 rw[hloo]
 cases hr : last? Record.key records id with
 | none=>rfl
 | some r=>rw[map_some,Record.written_eq (hwh r (mem_of_last? hr))]

theorem opens_of_sealBundle {account:Account} {bundle sealed:List UInt8} {random:Option (ℕ→UInt8)}
 (h:aead.sealBundle account.id account.venue bundle random=some sealed):
 aead.toBox.openBundle account.id account.venue sealed=some bundle:=by
 unfold Aead.sealBundle at h
 split at h
 next=>cases h
 next=>
  obtain ⟨random,-,rfl⟩:=map_eq_some_iff.mp h
  have hn:((List.range aead.nonceSize).map random).length=aead.nonceSize:=by simp
  have hlen:=aead.length_seal ((List.range aead.nonceSize).map random) bundle
   (additionalData account.id account.venue)
  rw[Box.openBundle,if_neg,take_left' hn,drop_left' hn,aead.open_seal _ _ _ hn]
  grind

/-! ## One operation -/

def Operation.InWholeMinutes:Operation→Prop
 | .create account ..=>Whole account.createdAt
 | .delete ..=>True

inductive Performs (box:Box) (s:State) (operation:Operation):State×Option Failure→Prop where
 | refused (failure:Failure):Performs box s operation (s,some failure)
 | rolledBack {records:List Record} (failure:Failure) (hunique:Unique Record.key records)
  (hmem:∀ r∈records,r∈s.records)
  (hsame:∀ id,last? Record.key records id=last? Record.key s.records id):
  Performs box s operation ({s with records},some failure)
 | written {records:List Record} {flush:Flush} {data:List UInt8} (hunique:Unique Record.key records)
  (hmem:∀ r∈records,r∈s.records∨(operation.InWholeMinutes→Whole r.createdAt)∧box.Opens r)
  (hwrite:flush.write records=.ok data):Performs box s operation ({file:=some data,records},none)

theorem performs_create (hunique:Unique Record.key s.records) (account:Account) (bundle:List UInt8)
 (random:Option (ℕ→UInt8)) (flush:Flush):
 Performs aead.toBox s (.create account bundle random flush) (s.create aead account bundle random flush):=by
 unfold State.create
 split
 next=>exact .refused .unavailable
 next sealed hsea=>
  split
  next=>exact .refused .exists
  next habs=>
   have hnone:last? Record.key s.records account.id=none:=by simpa using habs
   have hput:=hunique.put {toAccount:=account,sealed}
   dsimp only
   split
   next failure hfai=>
    refine .rolledBack failure (hput.erase account.id) ?_ ?_
    · intro r hr
      obtain ⟨hr,hkey⟩:=mem_filter.mp hr
      obtain hold | hnew:=mem_append.mp hr
      · exact mem_of_mem_filter hold
      · grind [Record.key]
    · intro id
      rw[last?_erase,last?_put]
      by_cases hid:id=account.id
      · rw[if_pos hid,hid,hnone]
      · have hne:Record.key {toAccount:=account,sealed}≠id:=Ne.symm hid
        rw[if_neg hid,if_neg hne]
   next data hdata=>
    refine .written hput ?_ hdata
    intro r hr
    obtain hold | hnew:=mem_append.mp hr
    · exact .inl (mem_of_mem_filter hold)
    · rw[mem_singleton.mp hnew]
      refine .inr ⟨id,?_⟩
      rw[Box.Opens,opens_of_sealBundle hsea]
      rfl

theorem performs_delete (hunique:Unique Record.key s.records) (id:String) (flush:Flush):
 Performs box s (.delete id flush) (s.delete id flush):=by
 unfold State.delete
 split
 next=>exact .refused .notFound
 next item hitem=>
  have hkey:item.key=id:=key_of_last? hitem
  dsimp only
  split
  next failure hfai=>
   refine .rolledBack failure ((hunique.erase id).put item) ?_ ?_
   · intro r hr
     obtain hold | hnew:=mem_append.mp hr
     · exact mem_of_mem_filter (mem_of_mem_filter hold)
     · grind [mem_of_last?]
   · grind [last?_put,last?_erase]
  next data hdata=>exact .written (hunique.erase id) (fun r hr=>.inl (mem_of_mem_filter hr)) hdata

theorem performs (hunique:Unique Record.key s.records) (operation:Operation):
 Performs aead.toBox s operation (s.perform aead operation):=by
 cases operation with
 | create account bundle random flush=>exact performs_create hunique account bundle random flush
 | delete id flush=>exact performs_delete hunique id flush

variable {operation:Operation} {outcome:State×Option Failure}

theorem Performs.sound (h:Performs box s operation outcome) (hwh:operation.InWholeMinutes)
 (hs:s.Sound box parser):outcome.1.Sound box parser:=by
 cases h with
 | refused=>exact hs
 | rolledBack failure hunique hmem hsame=>exact hs.rolledBack hunique hmem hsame
 | written hunique hmem hwrit=>
  refine sound_of_write hunique ?_ ?_ hwrit
  · intro r hr
    obtain hold | hnew:=hmem r hr
    · exact hs.whole r hold
    · exact hnew.1 hwh
  · intro r hr
    obtain hold | hnew:=hmem r hr
    · exact hs.opens r hold
    · exact hnew.2

theorem Performs.unique (h:Performs box s operation outcome) (hs:Unique Record.key s.records):
 Unique Record.key outcome.1.records:=by
 cases h with
 | refused=>exact hs
 | rolledBack failure hunique | written hunique=>exact hunique

theorem Performs.unchanged (h:Performs box s operation outcome) {failure:Failure}
 (hfai:outcome.2=some failure):
 outcome.1.file=s.file∧∀ id,last? Record.key outcome.1.records id=last? Record.key s.records id:=by
 cases h with
 | refused=>exact ⟨rfl,fun _=>rfl⟩
 | rolledBack failure hunique hmem hsame=>exact ⟨rfl,hsame⟩
 | written=>cases hfai

theorem unique_performAll (hs:Unique Record.key s.records) (operations:List Operation):
 Unique Record.key (s.performAll aead operations).records:=by
 induction operations generalizing s with
 | nil=>exact hs
 | cons operation operations ih=>exact ih ((performs hs operation).unique hs)

theorem sound_performAll {operations:List Operation} (hs:s.Sound aead.toBox parser)
 (hwh:∀ operation∈operations,operation.InWholeMinutes):
 (s.performAll aead operations).Sound aead.toBox parser:=by
 induction operations generalizing s with
 | nil=>exact hs
 | cons operation operations ih=>
  obtain ⟨hfst,hrest⟩:=forall_mem_cons.mp hwh
  exact ih ((performs hs.unique operation).sound hfst hs) hrest

theorem not_reopens_of_create {account:Account} {bundle:List UInt8} {random:Option (ℕ→UInt8)}
 (hunique:Unique Record.key s.records) (hope:∀ r∈s.records,aead.toBox.Opens r)
 (hnot:¬Whole account.createdAt) (hdone:(s.create aead account bundle random flush).2=none):
 ¬(s.create aead account bundle random flush).1.Reopens aead.toBox parser:=by
 cases hsea : aead.sealBundle account.id account.venue bundle random with
 | none=>simp[State.create,hsea] at hdone
 | some sealed=>
  by_cases hexi:(last? Record.key s.records account.id).isSome=true
  · simp[State.create,hsea,hexi] at hdone
  · cases hwrit : flush.write (put Record.key s.records {toAccount:=account,sealed}) with
    | error=>simp[State.create,hsea,hexi,hwrit] at hdone
    | ok data=>
     have hope':∀ r∈put Record.key s.records {toAccount:=account,sealed},aead.toBox.Opens r:=by
      intro r hr
      obtain hold | hnew:=mem_append.mp hr
      · exact hope r (mem_of_mem_filter hold)
      · rw[mem_singleton.mp hnew,Box.Opens,opens_of_sealBundle hsea]
        rfl
     obtain ⟨reopened,hreo,hwri⟩:=openStore_of_write parser (hunique.put _) hope' hwrit
     have hcre:s.create aead account bundle random flush =
       ({file:=some data,records:=put Record.key s.records {toAccount:=account,sealed}},none):=by
      simp[State.create,hsea,hexi,hwrit]
     rw[hcre]
     rintro ⟨records,hopen,hloo⟩
     have hsame:reopened=records:=Except.ok.inj (hreo.symm.trans hopen)
     subst hsame
     -- the text of the new account's time says another second
     have hkey:Record.key {toAccount:=account,sealed}=account.id:=rfl
     have hins:=hloo account.id
     simp only[hwri,last?_put,hkey,if_true] at hins
     have hsec:=congrArg (fun r:Option Record=>r.map fun r=>r.createdAt.seconds) hins
     apply hnot
     simpa[Record.written,Record.instant,Time.written,Whole] using hsec

end

/-- A failed call changes neither memory nor file, and the file reopens to the records in memory. -/
theorem store_persists (parser:TimeParser) (file:Option (List UInt8)) (records:List Record)
 (hopen:openStore aead.toBox parser file=.ok records) (operations:List Operation) (operation:Operation):
 let before:=State.performAll aead {file,records} operations
 let outcome:=before.perform aead operation
 (∀ failure,outcome.2=some failure→ outcome.1.file=before.file∧
   ∀ id,last? Record.key outcome.1.records id=last? Record.key before.records id)∧
  ((∀ any∈operations++[operation],any.InWholeMinutes)→ outcome.1.Reopens aead.toBox parser):=by
 intro before outcome
 have hso:=sound_of_openStore hopen
 have hper:Performs aead.toBox before operation outcome:=
  performs (unique_performAll hso.unique operations) operation
 refine ⟨fun failure hfai=>hper.unchanged hfai,?_⟩
 intro hwh
 obtain ⟨hbef,hlast⟩:=forall_mem_append.mp hwh
 have hso:=sound_performAll hso hbef
 exact (hper.sound (hlast operation mem_cons_self) hso).reopens

namespace Scenario

def plain:Aead:=
 { nonceSize:=12
   overhead:=0
   openSealed:=fun _ sealed _=>some sealed
   sealMaterial:=fun _ material _=>material
   length_seal:=by simp
   open_seal:=by simp}

def strict:TimeParser:=⟨fun _=>none,nofun⟩

def byCreation:SliceSort createdBefore:=
 .byKey createdBefore (fun r=>toLex (r.createdAt.seconds,r.createdAt.nanos)) fun a b=>by
  simp[createdBefore,Prod.Lex.toLex_lt_toLex]

def account (id:String) (offset:Int):Account:=
 {id,venue:="okx",label:="main",createdAt:={seconds:=1700000000,nanos:=500,offset}}

def creation (id:String) (offset:Int) (fault:Option FileFault):Operation:=
 .create (account id offset) [1,2,3] (some fun _=>7) {sort:=byCreation,fault}

end Scenario

theorem store_persists_after_failed_rename :
 let before:=State.performAll Scenario.plain {} [Scenario.creation "a" 3600 none]
 let outcome:=before.perform Scenario.plain (Scenario.creation "b" 0 (some .rename))
 before.records≠[]∧outcome.2=some (.file .rename)∧outcome.1.file=before.file∧
  outcome.1.Reopens Scenario.plain.toBox Scenario.strict:=by
 intro before outcome
 have hper:=store_persists Scenario.plain Scenario.strict none [] rfl [Scenario.creation "a" 3600 none]
  (Scenario.creation "b" 0 (some .rename))
 have hfai:outcome.2=some (.file .rename):=by decide +kernel
 have hwh:∀ any∈[Scenario.creation "a" 3600 none]++[Scenario.creation "b" 0 (some .rename)],
   any.InWholeMinutes:=by
  intro any hany
  simp only[cons_append,nil_append,mem_cons,not_mem_nil,or_false] at hany
  obtain rfl | rfl:=hany
  · exact (rfl:Int.tmod 3600 60=0)
  · exact (rfl:Int.tmod 0 60=0)
 exact ⟨by decide +kernel,hfai,(hper.1 _ hfai).1,hper.2 hwh⟩

theorem instant_lost_on_reopen :
 let outcome:=State.perform Scenario.plain {} (Scenario.creation "a" 30 none)
 outcome.2=none∧¬outcome.1.Reopens Scenario.plain.toBox Scenario.strict:=by
 have hdone:(State.perform Scenario.plain {} (Scenario.creation "a" 30 none)).2=none:=by decide +kernel
 exact ⟨hdone,not_reopens_of_create nodup_nil (by intro r hr; cases hr) (by decide) hdone⟩

/-! ## Files that others have written

Under an ideal cipher only what was sealed before opens, and only under the additional
data that it was sealed with. -/

structure Sealing where
 id:String
 venue:String
 material:List UInt8
 nonce:List UInt8
 body:List UInt8

def ideal (nonceSize overhead:ℕ) (history:List Sealing):Box:=
 { nonceSize
   overhead
   openSealed:=fun nonce body data=>
    (history.find? fun entry=>
     entry.nonce=nonce∧entry.body=body∧additionalData entry.id entry.venue=data).map Sealing.material}

theorem additionalData_inj {id venue id' venue':String} (hid : '\x00' ∉ id.toList) (hven : '\x00' ∉ venue.toList)
 (h:additionalData id venue=additionalData id' venue'):id=id'∧venue=venue':=by
 have htext:=append_cancel_left (Utf8.encode_injective h)
 grind [append_cons_inj_of_notMem,String.toList_inj.mp]

theorem of_ideal {nonceSize overhead:ℕ} {history:List Sealing} {id venue:String} {sealed plain:List UInt8}
 (hcle:∀ entry∈history,'\x00' ∉ entry.id.toList∧ '\x00' ∉ entry.venue.toList)
 (h:(ideal nonceSize overhead history).openBundle id venue sealed=some plain):
 ∃ entry∈history,entry.id=id∧entry.venue=venue∧entry.material=plain∧sealed=entry.nonce++entry.body:=by
 unfold Box.openBundle at h
 split at h
 next=>cases h
 next=>
  obtain ⟨entry,hfd,rfl⟩:=map_eq_some_iff.mp h
  have hen:=mem_of_find?_eq_some hfd
  have hm:=List.find?_some hfd
  simp only[decide_eq_true_eq] at hm
  obtain ⟨hn,hbody,hdata⟩:=hm
  obtain ⟨hid,hven⟩:=additionalData_inj (hcle entry hen).1 (hcle entry hen).2 hdata
  refine ⟨entry,hen,hid,hven,rfl,?_⟩
  rw[hn,hbody,take_append_drop]

/-- What a store loads was sealed before for the same account. -/
theorem loaded_bundles_were_sealed {nonceSize overhead:ℕ} {history:List Sealing} {parser:TimeParser}
 {file:Option (List UInt8)} {records:List Record}
 (hclean:∀ entry∈history,'\x00' ∉ entry.id.toList∧ '\x00' ∉ entry.venue.toList)
 (hopen:openStore (ideal nonceSize overhead history) parser file=.ok records):
 ∀ r∈records,∃ entry∈history,entry.id=r.id∧entry.venue=r.venue∧r.sealed=entry.nonce++entry.body∧
  get (ideal nonceSize overhead history) records r.id=.ok (r.toAccount,entry.material):=by
 intro r hr
 obtain ⟨hunique,heach⟩:=of_openStore hopen
 obtain ⟨plain,hpla⟩:=isSome_iff_exists.mp (heach r hr).1
 obtain ⟨entry,hen,hid,hven,hmat,hsea⟩:=of_ideal hclean hpla
 have hloo:last? Record.key records r.id=some r:=hunique.last?_eq_some_iff.mpr ⟨hr,rfl⟩
 refine ⟨entry,hen,hid,hven,hsea,?_⟩
 simp only[get,hloo,hpla,hmat]

namespace Scenario

def sealing:Sealing:={id:="a",venue:="okx",material:=[1,2,3],nonce:=[7],body:=[9,8]}
def sealedRecord:Record:={toAccount:=account "a" 0,sealed:=[7,9,8]}

end Scenario

theorem loaded_bundles_were_sealed_okx :
 ∃ file records,openStore (ideal 1 1 [Scenario.sealing]) Scenario.strict file=.ok records∧
  ∃ r∈records,r.id="a"∧∃ entry∈[Scenario.sealing],entry.id=r.id∧entry.venue=r.venue∧
   get (ideal 1 1 [Scenario.sealing]) records r.id=.ok (r.toAccount,entry.material):=by
 have hsome:(marshal [Scenario.sealedRecord]).isSome=true:=by decide +kernel
 obtain ⟨data,hdata⟩:=isSome_iff_exists.mp hsome
 have hope:∀ r∈[Scenario.sealedRecord],(ideal 1 1 [Scenario.sealing]).Opens r:=by
  intro r hr
  rw[mem_singleton.mp hr]
  decide +kernel
 have hopen:=openStore_marshal Scenario.strict hope hdata
 have hr:Scenario.sealedRecord.written∈([Scenario.sealedRecord].map Record.written).foldl (put Record.key) []:=
  mem_singleton_self _
 obtain ⟨entry,hen,hid,hven,-,hget⟩:=loaded_bundles_were_sealed (by decide) hopen _ hr
 exact ⟨some data,_,hopen,_,hr,rfl,entry,hen,hid,hven,hget⟩

end BolterTrader.AccountStore
