import BolterTrader.Foundations.Bytes

/-! MessagePack: a text is a sequence of items, where an array or a map is a header
that announces how many elements or entries follow. -/
namespace BolterTrader.Foundations.Msgpack
open List Option

inductive Item where
 | nil
 | bool (value:Bool)
 | int (value:Int)
 | str (bytes:List UInt8)
 | array (length:ℕ)
 | map (length:ℕ)

/-! ## Numbers of a fixed width -/

def bigEndian:ℕ→ℕ→List UInt8
 | 0,_=>[]
 | width+1,n=>bigEndian width (n/256)++[UInt8.ofNat n]

@[simp] theorem length_bigEndian (width n:ℕ):(bigEndian width n).length=width:=by
 induction width generalizing n with
 | zero=>rfl
 | succ width ih=>simp[bigEndian,ih]

theorem toNat_concat (bytes:List UInt8) (last:UInt8):
 Bytes.toNat (bytes++[last])=Bytes.toNat bytes*256+last.toNat:=by
 simp[Bytes.toNat]

variable {width n:ℕ}

theorem toNat_bigEndian (h:n<256^width):Bytes.toNat (bigEndian width n)=n:=by
 induction width generalizing n with
 | zero=>
  have hzero:n=0:=by simpa using h
  rw[hzero]
  rfl
 | succ width ih=>
  grind [bigEndian,toNat_concat,Nat.div_lt_iff_lt_mul,Nat.pow_succ,UInt8.toNat_ofNat']

theorem toNat_lt (bytes:List UInt8):Bytes.toNat bytes<256^bytes.length:=by
 induction bytes using List.reverseRecOn with
 | nil=>decide
 | append_singleton bytes last ih=>
  have hlast:=last.toNat_lt
  rw[toNat_concat,length_append,length_singleton,Nat.pow_succ]
  omega

def readNat (width:ℕ) (bytes:List UInt8):Option (ℕ×List UInt8):=
 if width≤bytes.length then some (Bytes.toNat (bytes.take width),bytes.drop width) else none

theorem readNat_bigEndian (h:n<256^width) (rest:List UInt8):
 readNat width (bigEndian width n++rest)=some (n,rest):=by
 have hlen:=length_bigEndian width n
 rw[readNat,if_pos (by simp),take_left' hlen,drop_left' hlen,toNat_bigEndian h]

variable {bytes rest:List UInt8}

theorem readNat_eq_some (h:readNat width bytes=some (n,rest)):
 n<256^width∧bytes.length=width+rest.length:=by
 obtain ⟨hwid,heq⟩:=ite_none_right_eq_some.mp h
 grind [toNat_lt,length_take,Nat.min_eq_left,length_drop]

/-! ## Writing -/

def sized (code:UInt8) (width n:ℕ):List UInt8:=code::bigEndian width n

def encodeNat (n:ℕ):List UInt8:=
 if n<128 then [UInt8.ofNat n]
 else if n<256 then sized 0xcc 1 n
 else if n<65536 then sized 0xcd 2 n
 else if n<4294967296 then sized 0xce 4 n
 else sized 0xcf 8 n

def encodeNegative (n:ℕ):List UInt8:=
 if n<32 then [UInt8.ofNat (255-n)]
 else if n<128 then sized 0xd0 1 (255-n)
 else if n<32768 then sized 0xd1 2 (65535-n)
 else if n<2147483648 then sized 0xd2 4 (4294967295-n)
 else sized 0xd3 8 (18446744073709551615-n)

def strHeader (n:ℕ):List UInt8:=
 if n<32 then [UInt8.ofNat (0xa0+n)]
 else if n<256 then sized 0xd9 1 n
 else if n<65536 then sized 0xda 2 n
 else sized 0xdb 4 n

def arrayHeader (n:ℕ):List UInt8:=
 if n<16 then [UInt8.ofNat (0x90+n)] else if n<65536 then sized 0xdc 2 n else sized 0xdd 4 n

def mapHeader (n:ℕ):List UInt8:=
 if n<16 then [UInt8.ofNat (0x80+n)] else if n<65536 then sized 0xde 2 n else sized 0xdf 4 n

def Item.encode:Item→List UInt8
 | .nil=>[0xc0]
 | .bool value=>[if value then 0xc3 else 0xc2]
 | .int (.ofNat n)=>encodeNat n
 | .int (.negSucc n)=>encodeNegative n
 | .str bytes=>strHeader bytes.length++bytes
 | .array n=>arrayHeader n
 | .map n=>mapHeader n

def encode (items:List Item):List UInt8:=items.flatMap Item.encode

def Item.Fits:Item→Prop
 | .int value=>-9223372036854775808≤value∧value<18446744073709551616
 | .str bytes=>bytes.length<4294967296
 | .array n | .map n=>n<4294967296
 | _=>True

instance (item:Item):Decidable item.Fits:=by
 unfold Item.Fits
 split<;>infer_instance

/-! ## Reading -/

inductive Kind where
 | nil | bool (value:Bool) | unsigned | signed | str | array | map

def form?:ℕ→Option (ℕ×Kind)
 | 0xc0=>some (0,.nil)
 | 0xc2=>some (0,.bool false)
 | 0xc3=>some (0,.bool true)
 | 0xcc=>some (1,.unsigned)
 | 0xcd=>some (2,.unsigned)
 | 0xce=>some (4,.unsigned)
 | 0xcf=>some (8,.unsigned)
 | 0xd0=>some (1,.signed)
 | 0xd1=>some (2,.signed)
 | 0xd2=>some (4,.signed)
 | 0xd3=>some (8,.signed)
 | 0xd9=>some (1,.str)
 | 0xda=>some (2,.str)
 | 0xdb=>some (4,.str)
 | 0xdc=>some (2,.array)
 | 0xdd=>some (4,.array)
 | 0xde=>some (2,.map)
 | 0xdf=>some (4,.map)
 | _=>none

def signed (width n:ℕ):Int:=if n<256^width/2 then n else (n:Int)-(256^width : ℕ)

def readStr (n:ℕ) (bytes:List UInt8):Option (Item×List UInt8):=
 if n≤bytes.length then some (.str (bytes.take n),bytes.drop n) else none

def build (kind:Kind) (width n:ℕ) (rest:List UInt8):Option (Item×List UInt8):=
 match kind with
 | .nil=>some (.nil,rest)
 | .bool value=>some (.bool value,rest)
 | .unsigned=>some (.int n,rest)
 | .signed=>some (.int (signed width n),rest)
 | .str=>readStr n rest
 | .array=>some (.array n,rest)
 | .map=>some (.map n,rest)

def decodeItem:List UInt8→Option (Item×List UInt8)
 | []=>none
 | head::bytes=>
  let code:=head.toNat
  if code<0x80 then some (.int code,bytes)
  else if code<0x90 then some (.map (code-0x80),bytes)
  else if code<0xa0 then some (.array (code-0x90),bytes)
  else if code<0xc0 then readStr (code-0xa0) bytes
  else if 0xe0≤code then some (.int ((code:Int)-256),bytes)
  else (form? code).bind fun form=>(readNat form.1 bytes).bind fun read=>build form.2 form.1 read.1 read.2

def decodeItems:ℕ→List UInt8→Option (List Item)
 | _,[]=>some []
 | 0,_::_=>none
 | fuel+1,bytes=>(decodeItem bytes).bind fun (item,rest)=>(decodeItems fuel rest).map (item :: ·)

def decode (bytes:List UInt8):Option (List Item):=decodeItems bytes.length bytes

/-! ## What is written is read back -/

theorem decodeItem_ofNat {code:ℕ} (h:code<256) (bytes:List UInt8):
 decodeItem (UInt8.ofNat code::bytes) =
  if code<0x80 then some (.int code,bytes)
  else if code<0x90 then some (.map (code-0x80),bytes)
  else if code<0xa0 then some (.array (code-0x90),bytes)
  else if code<0xc0 then readStr (code-0xa0) bytes
  else if 0xe0≤code then some (.int ((code:Int)-256),bytes)
  else (form? code).bind fun form=>(readNat form.1 bytes).bind fun read=>build form.2 form.1 read.1 read.2:=by
 have hcode:(UInt8.ofNat code).toNat=code:=by
  rw[UInt8.toNat_ofNat',Nat.mod_eq_of_lt h]
 simp only[decodeItem,hcode]

theorem decodeItem_sized {code:UInt8} (kind:Kind) (hlow:0xc0≤code.toNat) (hhigh:code.toNat<0xe0)
 (hform:form? code.toNat=some (width,kind)) (hn:n<256^width) (rest:List UInt8):
 decodeItem (sized code width n++rest)=build kind width n rest:=by
 rw[sized,cons_append,decodeItem,if_neg (by omega),if_neg (by omega),if_neg (by omega),
  if_neg (by omega),if_neg (by omega),hform,bind_some,readNat_bigEndian hn,bind_some]

theorem decodeItem_encodeNat (h:n<18446744073709551616) (rest:List UInt8):
 decodeItem (encodeNat n++rest)=some (.int n,rest):=by
 unfold encodeNat
 split
 · rw[singleton_append,decodeItem_ofNat (by omega),if_pos (by omega)]
 split
 · exact decodeItem_sized .unsigned (by decide) (by decide) rfl (by omega) rest
 split
 · exact decodeItem_sized .unsigned (by decide) (by decide) rfl (by omega) rest
 split<;>exact decodeItem_sized .unsigned (by decide) (by decide) rfl (by omega) rest

theorem signed_complement {m:ℕ} (hm:m=256^width-1-n) (h:n<256^width/2):
 signed width m=.negSucc n:=by
 rw[signed,if_neg (by omega),hm]
 omega

theorem decodeItem_negative {code:UInt8} {m:ℕ} (hlow:0xc0≤code.toNat) (hhigh:code.toNat<0xe0)
 (hform:form? code.toNat=some (width,.signed)) (hm:m=256^width-1-n) (hn:n<256^width/2)
 (rest:List UInt8):decodeItem (sized code width m++rest)=some (.int (.negSucc n),rest):=by
 rw[decodeItem_sized .signed hlow hhigh hform (by omega),build,signed_complement hm hn]

theorem decodeItem_encodeNegative (h:n<9223372036854775808) (rest:List UInt8):
 decodeItem (encodeNegative n++rest)=some (.int (.negSucc n),rest):=by
 unfold encodeNegative
 split
 · grind [decodeItem_ofNat]
 split
 · exact decodeItem_negative (by decide) (by decide) rfl (by omega) (by omega) rest
 split
 · exact decodeItem_negative (by decide) (by decide) rfl (by omega) (by omega) rest
 split<;>exact decodeItem_negative (by decide) (by decide) rfl (by omega) (by omega) rest

theorem readStr_append (bytes rest:List UInt8):readStr bytes.length (bytes++rest)=some (.str bytes,rest):=by
 rw[readStr,if_pos (by simp),take_left' rfl,drop_left' rfl]

theorem decodeItem_str (h:bytes.length<4294967296) (rest:List UInt8):
 decodeItem (strHeader bytes.length++bytes++rest)=some (.str bytes,rest):=by
 rw[append_assoc,←readStr_append bytes rest]
 unfold strHeader
 split
 · grind [decodeItem_ofNat]
 split
 · exact decodeItem_sized .str (by decide) (by decide) rfl (by omega) _
 split<;>exact decodeItem_sized .str (by decide) (by decide) rfl (by omega) _

theorem decodeItem_array (h:n<4294967296) (rest:List UInt8):
 decodeItem (arrayHeader n++rest)=some (.array n,rest):=by
 unfold arrayHeader
 split
 · grind [decodeItem_ofNat]
 split<;>exact decodeItem_sized .array (by decide) (by decide) rfl (by omega) rest

theorem decodeItem_map (h:n<4294967296) (rest:List UInt8):
 decodeItem (mapHeader n++rest)=some (.map n,rest):=by
 unfold mapHeader
 split
 · grind [decodeItem_ofNat]
 split<;>exact decodeItem_sized .map (by decide) (by decide) rfl (by omega) rest

variable {item:Item}

theorem decodeItem_encode (h:item.Fits) (rest:List UInt8):
 decodeItem (item.encode++rest)=some (item,rest):=by
 cases item with
 | nil=>rfl
 | bool value=>cases value<;>rfl
 | int value=>
  cases value with
  | ofNat n=>
   have hn:(n:Int)<18446744073709551616:=h.2
   exact decodeItem_encodeNat (by omega) rest
  | negSucc n=>
   have hn:=h.1
   exact decodeItem_encodeNegative (by omega) rest
 | str=>exact decodeItem_str h rest
 | array=>exact decodeItem_array h rest
 | map=>exact decodeItem_map h rest

theorem decodeItems_cons {fuel:ℕ} (h:decodeItem bytes=some (item,rest)):
 decodeItems (fuel+1) bytes=(decodeItems fuel rest).map (item :: ·):=by
 cases bytes with
 | nil=>cases h
 | cons=>
  rw[decodeItems,h,bind_some]
  exact nofun

theorem length_encode_pos (h:item.Fits):0< item.encode.length:=by
 have hread:=decodeItem_encode h []
 rcases Nat.eq_zero_or_pos item.encode.length with hzero | hpos
 · rw[length_eq_zero_iff.mp hzero] at hread
   cases hread
 · exact hpos

variable {items:List Item}

theorem length_le_length_encode (h:∀ item∈items,item.Fits):items.length≤(encode items).length:=by
 induction items with
 | nil=>exact Nat.le_refl 0
 | cons item items ih=>
  grind [length_encode_pos,encode]

theorem decodeItems_encode (h:∀ item∈items,item.Fits) {fuel:ℕ} (hfuel:items.length≤fuel):
 decodeItems fuel (encode items)=some items:=by
 induction items generalizing fuel with
 | nil=>cases fuel<;>rfl
 | cons item items ih=>
  obtain ⟨fuel,rfl⟩:=Nat.exists_eq_succ_of_ne_zero (Nat.ne_of_gt (Nat.zero_lt_of_lt hfuel))
  obtain ⟨hitem,hit⟩:=forall_mem_cons.mp h
  rw[encode,flatMap_cons,decodeItems_cons (decodeItem_encode hitem _)]
  exact congrArg (Option.map (item :: ·)) (ih hit (Nat.le_of_succ_le_succ hfuel))

theorem decode_encode (h:∀ item∈items,item.Fits):decode (encode items)=some items:=
 decodeItems_encode h (length_le_length_encode h)

/-! ## No form is shorter -/

theorem length_encodeNat (n:ℕ):(encodeNat n).length =
 if n<128 then 1 else if n<256 then 2 else if n<65536 then 3 else if n<4294967296 then 5 else 9:=by
 unfold encodeNat
 split_ifs<;>simp[sized]

theorem length_encodeNegative (n:ℕ):(encodeNegative n).length =
 if n<32 then 1 else if n<128 then 2 else if n<32768 then 3 else if n<2147483648 then 5 else 9:=by
 unfold encodeNegative
 split_ifs<;>simp[sized]

theorem length_strHeader (n:ℕ):
 (strHeader n).length=if n<32 then 1 else if n<256 then 2 else if n<65536 then 3 else 5:=by
 unfold strHeader
 split_ifs<;>simp[sized]

theorem length_arrayHeader (n:ℕ):(arrayHeader n).length=if n<16 then 1 else if n<65536 then 3 else 5:=by
 unfold arrayHeader
 split_ifs<;>simp[sized]

theorem length_mapHeader (n:ℕ):(mapHeader n).length=if n<16 then 1 else if n<65536 then 3 else 5:=by
 unfold mapHeader
 split_ifs<;>simp[sized]

theorem length_encode_str (h:readStr n bytes=some (item,rest)):
 item.encode.length+rest.length=(strHeader n).length+bytes.length:=by
 obtain ⟨hle,heq⟩:=ite_none_right_eq_some.mp h
 cases heq
 simp only[Item.encode,length_append,length_take,length_drop,Nat.min_eq_left hle]
 omega

theorem form?_width {code:ℕ} {kind:Kind} (h:form? code=some (width,kind)):
  match kind with
  | .nil | .bool _=>True
  | .unsigned | .signed=>width=1∨width=2∨width=4∨width=8
  | .str=>width=1∨width=2∨width=4
  | .array | .map=>width=2∨width=4:=by
 unfold form? at h
 split at h<;>cases h<;>simp

theorem length_encode_build {code:ℕ} {kind:Kind} {rest':List UInt8} (hform:form? code=some (width,kind))
 (hn:n<256^width) (h:build kind width n rest=some (item,rest')):
 item.encode.length+rest'.length≤1+width+rest.length:=by
 have hwid:=form?_width hform
 cases kind with
 | nil | bool=>
  cases h
  simp[Item.encode]
 | unsigned=>
  cases h
  have hlen:=length_encodeNat n
  change (encodeNat n).length+_≤_
  rcases hwid with rfl | rfl | rfl | rfl<;>(split_ifs at hlen<;>omega)
 | signed=>
  cases h
  by_cases hsign:n<256^width/2
  · have hlen:=length_encodeNat n
    rw[signed,if_pos hsign]
    change (encodeNat n).length+_≤_
    rcases hwid with rfl | rfl | rfl | rfl<;>(split_ifs at hlen<;>omega)
  · have hlen:=length_encodeNegative (256^width-1-n)
    have heven:256^width/2+256^width/2=256^width:=by
     grind
    have hv:signed width n=.negSucc (256^width-1-n):=signed_complement (by omega) (by omega)
    rw[hv]
    change (encodeNegative (256^width-1-n)).length+_≤_
    rcases hwid with rfl | rfl | rfl | rfl<;>(split_ifs at hlen<;>omega)
 | str=>
  have hlen:=length_strHeader n
  rw[length_encode_str h]
  rcases hwid with rfl | rfl | rfl<;>(split_ifs at hlen<;>omega)
 | array=>
  cases h
  have hlen:=length_arrayHeader n
  change (arrayHeader n).length+_≤_
  grind
 | map=>
  cases h
  have hlen:=length_mapHeader n
  change (mapHeader n).length+_≤_
  grind

theorem length_encode_of_decodeItem (h:decodeItem bytes=some (item,rest)):
 item.encode.length+rest.length≤bytes.length:=by
 cases bytes with
 | nil=>cases h
 | cons head bytes=>
  have hhead:=head.toNat_lt
  unfold decodeItem at h
  dsimp only at h
  split at h
  · cases h
    have hlen:=length_encodeNat head.toNat
    change (encodeNat head.toNat).length+_≤_
    grind
  split at h
  · cases h
    have hlen:=length_mapHeader (head.toNat-0x80)
    change (mapHeader _).length+_≤_
    grind
  split at h
  · cases h
    have hlen:=length_arrayHeader (head.toNat-0x90)
    change (arrayHeader _).length+_≤_
    grind
  split at h
  · rw[length_encode_str h,length_strHeader,if_pos (by omega),length_cons]
    omega
  split at h
  · cases h
    have hlen:=length_encodeNegative (255-head.toNat)
    have hv:(head.toNat : Int)-256=.negSucc (255-head.toNat):=by omega
    rw[hv]
    change (encodeNegative _).length+_≤_
    grind
  · obtain ⟨⟨width,kind⟩,hform,h⟩:=bind_eq_some_iff.mp h
    obtain ⟨⟨n,after⟩,hread,hbui⟩:=bind_eq_some_iff.mp h
    obtain ⟨hn,hby⟩:=readNat_eq_some hread
    dsimp only at hby hbui
    have hitem:=length_encode_build hform hn hbui
    rw[length_cons]
    omega

theorem length_encode_of_decodeItems {fuel:ℕ} (h:decodeItems fuel bytes=some items):
 (encode items).length≤bytes.length:=by
 induction fuel generalizing bytes items with
 | zero=>
  cases bytes with
  | nil=>
   cases h
   exact Nat.le_refl 0
  | cons=>cases h
 | succ fuel ih=>
  cases bytes with
  | nil=>
   cases h
   exact Nat.le_refl 0
  | cons head tail=>
   obtain ⟨⟨item,rest⟩,hitem,hrest⟩:=bind_eq_some_iff.mp h
   obtain ⟨later,hlat,rfl⟩:=map_eq_some_iff.mp hrest
   have hfst:=length_encode_of_decodeItem hitem
   grind [encode,length_append]

theorem length_encode_of_decode (h:decode bytes=some items):(encode items).length≤bytes.length:=
 length_encode_of_decodeItems h

end BolterTrader.Foundations.Msgpack
