import BolterTrader.Foundations.Table
import BolterTrader.Foundations.Transition
import Mathlib.Logic.Function.Basic

/-! The realtime client of the browser (`realtime.ts`): one socket at a time, the listeners of each
topic, and the timer that connects again. The server is seen through the commands of a socket. -/
namespace BolterTrader.Web.Realtime
open List Foundations Foundations.Transition

inductive Channel
 | book | trades | candle | ticker | account

def Channel.text:Channel→String
 | book=>"book"
 | trades=>"trades"
 | candle=>"candle"
 | ticker=>"ticker"
 | account=>"account"

structure Topic where
 ch:Channel
 inst:Option String:=none
 interval:Option String:=none
 account:Option String:=none

structure Message where
 ch:String
 inst:Option String:=none
 interval:Option String:=none
 account:Option String:=none

def joined (ch:String) (inst interval account:Option String):List Char:=
 [ '|'].intercalate [ch.toList,(inst.getD "").toList,(interval.getD "").toList,(account.getD "").toList]

def topicKey (t:Topic):List Char:=joined t.ch.text t.inst t.interval t.account

def messageKey (m:Message):List Char:=
 if "account".toList.isPrefixOf m.ch.toList then joined "account" none none m.account
 else
  let ch:=if ".status".toList.isSuffixOf m.ch.toList
   then String.ofList (m.ch.toList.take (m.ch.toList.length-7)) else m.ch
  joined ch m.inst m.interval m.account

inductive ConnectionState
 | connecting | online | offline

/-- The states of a socket that can still raise an event. -/
inductive ReadyState
 | connecting | opened | closing
deriving DecidableEq

inductive Command
 | sub (topic:Topic)
 | unsub (topic:Topic)

structure Socket where
 id:ℕ
 readyState:ReadyState:=.connecting
 sent:List Command:=[]

/-- The sets of listeners stand beside the map of topics, by key. A state listener stands with the
state it was last called with. `created` counts the sockets, and `closing` are those given up whose
close event is still to come. -/
structure Client (L S:Type*) where
 socket:Option Socket:=none
 topics:Table (List Char) Topic:={}
 listeners:List Char→List L:=fun _=>[]
 stateListeners:List (S×ConnectionState):=[]
 state:ConnectionState:=.offline
 backoff:ℕ:=500
 timer:Option ℕ:=none
 enabled:Bool:=false
 created:ℕ:=0
 closing:List ℕ:=[]

variable {L S:Type*}

def Socket.send (s:Socket) (cmd:Command):Socket:=
 if s.readyState=.opened then {s with sent:=s.sent++[cmd]} else s

namespace Client

def setState (c:Client L S) (state:ConnectionState):Client L S:=
 {c with state,stateListeners:=c.stateListeners.map fun x=>(x.1,state)}

def send (c:Client L S) (cmd:Command):Client L S:={c with socket:=c.socket.map (·.send cmd)}

def connect (c:Client L S):Client L S:=
 if c.enabled then
  {c.setState .connecting with socket:=some ⟨c.created,.connecting,[]⟩,created:=c.created+1}
 else c

def start (c:Client L S):Client L S:=if c.enabled then c else {c with enabled:=true}.connect

def stop (c:Client L S):Client L S:=
 let closing:=c.socket.toList.map Socket.id++c.closing
 {c with enabled:=false,timer:=none,closing,socket:=none}.setState .offline

def onopen (c:Client L S) (s:Socket):Client L S:=
 let c:={c with backoff:=500,socket:=some {s with readyState:=.opened}}.setState .online
 c.topics.rows.foldl (fun c row=>c.send (.sub row.2)) c

def onclose (c:Client L S):Client L S:=
 let c:={c with socket:=none}.setState .offline
 if c.enabled then {c with timer:=some c.backoff,backoff:=min (c.backoff*2) 15000} else c

/-- The listeners that are called for a message, in order. -/
def delivered (c:Client L S) (m:Message):List L:=
 if m.ch = "error" then [] else
  match c.topics.get (messageKey m) with
  | none=>[]
  | some _=>c.listeners (messageKey m)

variable [DecidableEq L] [DecidableEq S]

/-- `Set.add`, on the members in order. -/
def add (ls:List L) (l:L):List L:=if l∈ls then ls else ls++[l]

def subscribe (c:Client L S) (topic:Topic) (l:L):Client L S:=
 let key:=topicKey topic
 let c:=match c.topics.get key with
  | none=>{c with topics:=c.topics.put key topic}.send (.sub topic)
  | some _=>c
 {c with listeners:=Function.update c.listeners key (add (c.listeners key) l)}

/-- The function that `subscribe` returns. -/
def unsubscribe (c:Client L S) (topic:Topic) (l:L):Client L S:=
 let key:=topicKey topic
 match c.topics.get key with
 | none=>c
 | some _=>
  let rest:=(c.listeners key).filter (· ≠ l)
  let c:={c with listeners:=Function.update c.listeners key rest}
  if rest.isEmpty then {c with topics:=c.topics.erase key}.send (.unsub topic) else c

def onState (c:Client L S) (x:S):Client L S:=
 if x∈c.stateListeners.map Prod.fst then
  {c with stateListeners:=c.stateListeners.map fun y=>if y.1=x then (x,c.state) else y}
 else {c with stateListeners:=c.stateListeners++[(x,c.state)]}

end Client

/-- What the page calls, and what the browser raises: `dropped` is the end of a connection whose
close event is still to come, and `message` carries nothing when its text is no JSON. -/
inductive Event (L S:Type*)
 | start
 | stop
 | subscribe (topic:Topic) (l:L)
 | unsubscribe (topic:Topic) (l:L)
 | onState (x:S)
 | offState (x:S)
 | opened
 | dropped
 | closed (id:ℕ)
 | timeout
 | message (m:Option Message)

def step [DecidableEq L] [DecidableEq S] (c:Client L S):Event L S→Option (Client L S)
 | .start=>some c.start
 | .stop=>some c.stop
 | .subscribe topic l=>some (c.subscribe topic l)
 | .unsubscribe topic l=>some (c.unsubscribe topic l)
 | .onState x=>some (c.onState x)
 | .offState x=>some {c with stateListeners:=c.stateListeners.filter (·.1≠x)}
 | .opened=>c.socket.bind fun s=>if s.readyState=.connecting then some (c.onopen s) else none
 | .dropped=>c.socket.bind fun s=>
  if s.readyState≠.closing then some {c with socket:=some {s with readyState:=.closing}} else none
 | .closed id=>
  -- `onclose` returns at once for a socket that is not the current one
  if c.socket.map Socket.id=some id then
   c.socket.bind fun s=>if s.readyState=.closing then some c.onclose else none
  else if id∈c.closing then some {c with closing:=c.closing.erase id} else none
 | .timeout=>c.timer.map fun _=>{c with timer:=none}.connect
 | .message _=>c.socket.bind fun s=>if s.readyState=.opened then some c else none

def Event.topic?:Event L S→Option Topic
 | .subscribe topic _ | .unsubscribe topic _=>some topic
 | _=>none

variable {c next:Client L S}

theorem sendAll (rows:List (List Char×Topic)) {s:Socket} (hs:c.socket=some s) (hopen:s.readyState=.opened):
 rows.foldl (fun c row=>c.send (.sub row.2)) c =
  {c with socket:=some {s with sent:=s.sent++rows.map fun row=>.sub row.2}}:=by
 induction rows generalizing c s with
 | nil=>simp[←hs]
 | cons row rest ih=>
  have hsend:(c.send (.sub row.2)).socket=some {s with sent:=s.sent++[.sub row.2]}:=by
   simp[Client.send,hs,Socket.send,hopen]
  rw[foldl_cons,ih hsend hopen]
  simp[Client.send]

/-! ## The link -/

/-- Of an enabled client exactly one holds: a socket is current, or a timer is pending. -/
structure Steady (c:Client L S):Prop where
 link:c.enabled=(c.socket.isSome || c.timer.isSome)
 apart:c.socket=none∨c.timer=none
 offline:c.state=.offline ↔ c.socket=none
 backoff:500≤c.backoff∧c.backoff≤15000
 delay:∀ d∈c.timer,500≤d∧d≤15000
 told:∀ x∈c.stateListeners,x.2=c.state
 ids:∀ s∈c.socket,s.id<c.created∧s.id∉c.closing
 old:∀ i∈c.closing,i<c.created

/-- Topics, listeners and what a socket has sent are no part of the link. -/
theorem Steady.sending (h:Steady c) (topics:Table (List Char) Topic) (listeners:List Char→List L)
 {f:Socket→Socket} (hf:∀ s,(f s).id=s.id):
 Steady {c with topics,listeners,socket:=c.socket.map f}:=by
 refine ⟨?_,?_,?_,h.backoff,h.delay,h.told,?_,h.old⟩
 · simpa using h.link
 · simpa using h.apart
 · simpa using h.offline
 · intro s hs
   obtain ⟨t,ht,rfl⟩:=Option.map_eq_some_iff.mp hs
   rw[hf]
   exact h.ids t ht

theorem Socket.send_id (cmd:Command) (s:Socket):(s.send cmd).id=s.id:=by
 unfold send
 split<;>rfl

theorem Steady.listening (h:Steady c) (listeners:List Char→List L):Steady {c with listeners}:=
 ⟨h.link,h.apart,h.offline,h.backoff,h.delay,h.told,h.ids,h.old⟩

theorem told_setState (c:Client L S) (state:ConnectionState):
 ∀ x∈(c.setState state).stateListeners,x.2=state:=by
 intro x hx
 obtain ⟨y,-,rfl⟩:=mem_map.mp hx
 rfl

theorem Steady.connect (hen:c.enabled=true) (htimer:c.timer=none)
 (hback:500≤c.backoff∧c.backoff≤15000) (hold:∀ i∈c.closing,i<c.created):Steady c.connect:=by
 unfold Client.connect
 rw[if_pos hen]
 refine ⟨by simpa[Client.setState] using hen,.inr htimer,?_,hback,?_,?_,?_,?_⟩
 · simp[Client.setState]
 · simp[Client.setState,htimer]
 · exact told_setState c .connecting
 · rintro s ⟨⟩
   exact ⟨Nat.lt_succ_self _,fun hmem=>Nat.lt_irrefl _ (hold _ hmem)⟩
 · exact fun i hi=>Nat.lt_succ_of_lt (hold i hi)

theorem steady_init:Steady ({}:Client L S):=by
 constructor<;>simp

theorem connect_socket (c:Client L S):c.connect.topics=c.topics∧c.connect.listeners=c.listeners∧
 (c.connect.socket=c.socket∨c.connect.socket=some ⟨c.created,.connecting,[]⟩):=by
 unfold Client.connect
 split
 · exact ⟨rfl,rfl,.inr rfl⟩
 · exact ⟨rfl,rfl,.inl rfl⟩

theorem bind_guard {α β:Type*} {o:Option α} {p:α→Prop} [DecidablePred p] {f:α→β} {b:β}
 (h:(o.bind fun a=>if p a then some (f a) else none)=some b):∃ a,o=some a∧p a∧f a=b:=by
 obtain ⟨a,ha,hb⟩:=Option.bind_eq_some_iff.mp h
 grind

variable [DecidableEq L] [DecidableEq S]

theorem steady_step {e:Event L S} (h:Steady c) (hstep:step c e=some next):Steady next:=by
 cases e with
 | start=>
  cases hstep
  unfold Client.start
  split
  · exact h
  · have hnone:=h.link.symm.trans (Bool.eq_false_iff.mpr ‹_›)
    simp only[Bool.or_eq_false_iff,Option.isSome_eq_false_iff,Option.isNone_iff_eq_none] at hnone
    exact Steady.connect rfl hnone.2 h.backoff h.old
 | stop=>
  cases hstep
  refine ⟨rfl,.inl rfl,by simp[Client.stop,Client.setState],h.backoff,?_,?_,?_,?_⟩
  · simp[Client.stop,Client.setState]
  · exact told_setState _ _
  · simp[Client.stop,Client.setState]
  · intro i hi
    rcases mem_append.mp hi with hcur | hclosing
    · obtain ⟨s,hs,rfl⟩:=mem_map.mp hcur
      exact (h.ids s (Option.mem_toList.mp hs)).1
    · exact h.old i hclosing
 | subscribe topic l=>
  cases hstep
  unfold Client.subscribe
  dsimp only
  split
  · exact h.sending _ _ (Socket.send_id _)
  · exact h.listening _
 | unsubscribe topic l=>
  cases hstep
  unfold Client.unsubscribe
  dsimp only
  split
  · exact h
  · split
    · exact h.sending _ _ (Socket.send_id _)
    · exact h.listening _
 | onState x=>
  cases hstep
  unfold Client.onState
  split
  · refine ⟨h.link,h.apart,h.offline,h.backoff,h.delay,?_,h.ids,h.old⟩
    intro y hy
    obtain ⟨z,hz,rfl⟩:=mem_map.mp hy
    split
    · rfl
    · exact h.told z hz
  · refine ⟨h.link,h.apart,h.offline,h.backoff,h.delay,?_,h.ids,h.old⟩
    intro y hy
    rcases mem_append.mp hy with hy | hy
    · exact h.told y hy
    · rw[mem_singleton.mp hy]
 | offState x=>
  cases hstep
  exact ⟨h.link,h.apart,h.offline,h.backoff,h.delay,
   fun y hy=>h.told y (mem_of_mem_filter hy),h.ids,h.old⟩
 | opened=>
  obtain ⟨s,hs,-,rfl⟩:=bind_guard hstep
  have htimer:=h.apart.resolve_left (by simp[hs])
  have hlink:=h.link
  unfold Client.onopen
  rw[sendAll _ rfl rfl]
  refine ⟨?_,.inr htimer,?_,by simp[Client.setState],?_,told_setState _ _,?_,h.old⟩
  · simpa[hs,Client.setState] using hlink
  · simp[Client.setState]
  · simp[Client.setState,htimer]
  · rintro t ⟨⟩
    exact h.ids s hs
 | dropped=>
  obtain ⟨s,hs,-,rfl⟩:=bind_guard hstep
  have hmap:some {s with readyState:=.closing}=c.socket.map fun s=>{s with readyState:=.closing}:=by
   rw[hs]
   rfl
  rw[hmap]
  exact h.sending c.topics c.listeners fun _=>rfl
 | closed id=>
  simp only[step] at hstep
  split at hstep
  · obtain ⟨s,hs,-,rfl⟩:=bind_guard hstep
    have hen:c.enabled=true:=by simpa[hs] using h.link
    have hback:=h.backoff
    have hclose:c.onclose={({c with socket:=none}:Client L S).setState .offline with
     timer:=some c.backoff,backoff:=min (c.backoff*2) 15000}:=if_pos hen
    rw[hclose]
    refine ⟨by simpa[Client.setState] using hen,.inl rfl,by simp[Client.setState],?_,?_,
     told_setState _ _,by simp[Client.setState],h.old⟩
    all_goals grind
  · obtain ⟨-,hnext⟩:=Option.ite_none_right_eq_some.mp hstep
    cases hnext
    refine ⟨h.link,h.apart,h.offline,h.backoff,h.delay,h.told,?_,?_⟩
    · exact fun s hs=>⟨(h.ids s hs).1,fun hmem=>(h.ids s hs).2 (mem_of_mem_erase hmem)⟩
    · exact fun i hi=>h.old i (mem_of_mem_erase hi)
 | timeout=>
  obtain ⟨d,hd,rfl⟩:=Option.map_eq_some_iff.mp hstep
  exact Steady.connect (by simpa[hd] using h.link) rfl h.backoff h.old
 | message m=>
  obtain ⟨s,-,-,rfl⟩:=bind_guard hstep
  exact h

/-- From the first page load on: an enabled client has a socket or else a timer whose firing makes
one, and a close event that comes late changes nothing else. -/
theorem steady_run {events:List (Event L S)} (h:run step {} events=some c):
 Steady c∧(c.enabled=true→ c.socket=none→ ∃ next,step c .timeout=some next∧
   next.socket=some ⟨c.created,.connecting,[]⟩)∧
  ∀ i∈c.closing,step c (.closed i)=some {c with closing:=c.closing.erase i}:=by
 have hc:=invariant Steady (fun _ _ _ hs hstep=>steady_step hs hstep) steady_init h
 refine ⟨hc,?_,?_⟩
 · intro hen hsocket
   obtain ⟨d,hd⟩:=Option.isSome_iff_exists.mp (by simpa[hen,hsocket] using hc.link.symm)
   refine ⟨{c with timer:=none}.connect,by simp[step,hd],?_⟩
   simp[Client.connect,hen]
 · intro i hi
   have hne:c.socket.map Socket.id≠some i:=by
    intro hsome
    obtain ⟨s,hs,rfl⟩:=Option.map_eq_some_iff.mp hsome
    exact (hc.ids s hs).2 hi
   simp[step,hne,hi]

theorem steady_after_drop:∃ c,
 run step ({}:Client ℕ ℕ) [.start,.opened,.dropped,.closed 0]=some c∧c.timer=some 500∧Steady c:=
 ⟨_,rfl,rfl,(@steady_run ℕ ℕ _ _ _ [.start,.opened,.dropped,.closed 0] rfl).1⟩

/-- What the events other than calls about a topic do to the topics and to the current socket. -/
theorem step_socket {e:Event L S} (he:e.topic?=none) (hstep:step c e=some next):
 next.topics=c.topics∧next.listeners=c.listeners∧
 (next.socket=c.socket∨next.socket=none∨(∃ id,next.socket=some ⟨id,.connecting,[]⟩)∨
  (∃ s:Socket,next.socket=some {s with readyState:=.closing})∨
  ∃ s∈c.socket,s.readyState=.connecting∧next.socket=
   some ⟨s.id,.opened,s.sent++c.topics.rows.map fun row=>.sub row.2⟩):=by
 cases e with
 | start=>
  cases hstep
  unfold Client.start
  split
  · exact ⟨rfl,rfl,.inl rfl⟩
  · obtain ⟨htopics,hls,hsame | hnew⟩:=connect_socket {c with enabled:=true}
    all_goals grind
 | stop=>
  cases hstep
  exact ⟨rfl,rfl,.inr (.inl rfl)⟩
 | subscribe | unsubscribe=>cases he
 | onState x=>
  cases hstep
  grind [Client.onState]
 | offState x=>
  cases hstep
  exact ⟨rfl,rfl,.inl rfl⟩
 | opened=>
  obtain ⟨s,hs,hready,rfl⟩:=bind_guard hstep
  unfold Client.onopen
  rw[sendAll _ rfl rfl]
  exact ⟨rfl,rfl,.inr (.inr (.inr (.inr ⟨s,hs,hready,rfl⟩)))⟩
 | dropped=>
  obtain ⟨s,-,-,rfl⟩:=bind_guard hstep
  grind
 | closed id=>
  simp only[step] at hstep
  split at hstep
  · obtain ⟨s,-,-,rfl⟩:=bind_guard hstep
    unfold Client.onclose
    dsimp only
    split<;>exact ⟨rfl,rfl,.inr (.inl rfl)⟩
  · grind
 | timeout=>
  obtain ⟨d,-,rfl⟩:=Option.map_eq_some_iff.mp hstep
  obtain ⟨htopics,hls,hsame | hnew⟩:=connect_socket {c with timer:=none}
  all_goals grind
 | message m=>
  obtain ⟨s,-,-,rfl⟩:=bind_guard hstep
  exact ⟨rfl,rfl,.inl rfl⟩

/-! ## What the server holds, and who hears a message -/

/-- A server that takes no topic twice and drops none that it does not hold. -/
def serve (held:List (List Char)):Command→Option (List (List Char))
 | .sub t=>if topicKey t∈held then none else some (held++[topicKey t])
 | .unsub t=>if topicKey t∈held then some (held.filter (· ≠ topicKey t)) else none

def keys (topics:Table (List Char) Topic):List (List Char):=topics.rows.map Prod.fst

structure Mirrored (c:Client L S):Prop where
 keyed:∀ row∈c.topics.rows,topicKey row.2=row.1
 heard:∀ key,key∈keys c.topics ↔ c.listeners key≠[]
 nodup:∀ key,(c.listeners key).Nodup
 silent:∀ s∈c.socket,s.readyState=.connecting→ s.sent=[]
 mirror:∀ s∈c.socket,s.readyState=.opened→ run serve [] s.sent=some (keys c.topics)

section
omit [DecidableEq L] [DecidableEq S]

theorem mem_keys {topics:Table (List Char) Topic} {key:List Char}:
 key∈keys topics ↔ ∃ t,topics.get key=some t:=by
 simp[keys,Table.mem_rows]

theorem rows_put {topics:Table (List Char) Topic} {key:List Char} (h:topics.get key=none) (t:Topic):
 (topics.put key t).rows=topics.rows++[(key,t)]:=by
 have hkeep:topics.rows.filter (fun row=>row.1≠key)=topics.rows:=by
  refine filter_eq_self.mpr fun row hrow=>decide_eq_true fun hkey=>?_
  have hget:=Table.mem_rows.mp (hkey▸hrow : (key,row.2)∈topics.rows)
  cases h.symm.trans hget
 exact congrArg (· ++ [(key,t)]) hkeep

theorem keys_erase (topics:Table (List Char) Topic) (key:List Char):
 keys (topics.erase key)=(keys topics).filter (· ≠ key):=by
 unfold keys
 rw[filter_map]
 rfl

theorem serve_all {rows:List (List Char×Topic)} {held:List (List Char)}
 (hkeyed:∀ row∈rows,topicKey row.2=row.1) (hunique:(held++rows.map Prod.fst).Nodup):
 run serve held (rows.map fun row=>.sub row.2)=some (held++rows.map Prod.fst):=by
 induction rows generalizing held with
 | nil=>simp
 | cons row rest ih=>
  obtain ⟨hkey,hrest⟩:=forall_mem_cons.mp hkeyed
  rw[map_cons,append_cons] at hunique
  have hnew:row.1∉held:=fun hmem=>
   (nodup_append.mp (nodup_append.mp hunique).1).2.2 _ hmem _ (mem_singleton_self _) rfl
  grind [serve,run_cons_of_step]

theorem Mirrored.listening (h:Mirrored c) {key:List Char} {ls:List L} (hls:ls.Nodup)
 (hne:c.listeners key≠[] ↔ ls≠[]):Mirrored {c with listeners:=Function.update c.listeners key ls}:=by
 refine ⟨h.keyed,fun k=>?_,fun k=>?_,h.silent,h.mirror⟩<;>dsimp only<;>rw[Function.update_apply]
 · rw[h.heard]
   grind
 · split
   · exact hls
   · exact h.nodup k

theorem Mirrored.sending (h:Mirrored c) {topics:Table (List Char) Topic} {key:List Char} {ls:List L}
 {cmd:Command} (hkeyed:∀ row∈topics.rows,topicKey row.2=row.1) (hls:ls.Nodup)
 (hkeys:∀ k,k∈keys topics ↔ if k=key then ls≠[] else k∈keys c.topics)
 (hserve:serve (keys c.topics) cmd=some (keys topics)):
 Mirrored {c with topics,listeners:=Function.update c.listeners key ls,socket:=c.socket.map (·.send cmd)}:=by
 refine ⟨hkeyed,fun k=>?_,fun k=>?_,?_,?_⟩
 · dsimp only
   rw[hkeys,h.heard,Function.update_apply]
   split<;>rfl
 · dsimp only
   rw[Function.update_apply]
   split
   · exact hls
   · exact h.nodup k
 · intro s hs
   obtain ⟨t,ht,rfl⟩:=Option.map_eq_some_iff.mp hs
   unfold Socket.send
   split
   · grind
   · exact h.silent t ht
 · intro s hs
   obtain ⟨t,ht,rfl⟩:=Option.map_eq_some_iff.mp hs
   unfold Socket.send
   split
   · intro hready
     refine run_append_eq_some.mpr ⟨_,h.mirror t ht hready,?_⟩
     rw[run_cons_of_step hserve]
     rfl
   all_goals grind

end

section
omit [DecidableEq S]

theorem add_ne_nil (ls:List L) (l:L):Client.add ls l≠[]:=by
 unfold Client.add
 split
 · exact ne_nil_of_mem ‹_›
 · simp

theorem nodup_add {ls:List L} (h:ls.Nodup) (l:L):(Client.add ls l).Nodup:=by
 grind [Client.add]

theorem Mirrored.subscribe (h:Mirrored c) (topic:Topic) (l:L):Mirrored (c.subscribe topic l):=by
 have hnodup:=nodup_add (h.nodup (topicKey topic)) l
 have hne:=add_ne_nil (c.listeners (topicKey topic)) l
 unfold Client.subscribe
 dsimp only
 split
 · next hget=>
   have hrows:=rows_put hget topic
   have hkeys:keys (c.topics.put (topicKey topic) topic)=keys c.topics++[topicKey topic]:=by
    simp[keys,hrows]
   have hkeyed:∀ row∈(c.topics.put (topicKey topic) topic).rows,topicKey row.2=row.1:=by
    rw[hrows,forall_mem_append,forall_mem_singleton]
    exact ⟨h.keyed,rfl⟩
   have hserve:serve (keys c.topics) (.sub topic)=some (keys (c.topics.put (topicKey topic) topic)):=by
    have hnew:topicKey topic∉keys c.topics:=by simp[mem_keys,hget]
    rw[serve,if_neg hnew,hkeys]
   refine h.sending hkeyed hnodup (fun k=>?_) hserve
   refine (hkeys▸mem_append.trans (or_congr_right mem_singleton)).trans ?_
   split
   · exact iff_of_true (.inr ‹_›) hne
   · exact or_iff_left ‹_›
 · next t hget=>
   have hheld:=(h.heard _).mp (mem_keys.mpr ⟨t,hget⟩)
   exact h.listening hnodup (iff_of_true hheld hne)

theorem Mirrored.unsubscribe (h:Mirrored c) (topic:Topic) (l:L):Mirrored (c.unsubscribe topic l):=by
 have hnodup:=(h.nodup (topicKey topic)).filter (· ≠ l)
 unfold Client.unsubscribe
 dsimp only
 split
 · exact h
 · next t hget=>
   have hheld:=mem_keys.mpr ⟨t,hget⟩
   split
   · next hlast=>
     refine h.sending (fun row hrow=>h.keyed row (mem_of_mem_filter hrow)) hnodup ?_ ?_
     · grind [keys_erase]
     · rw[serve,if_pos hheld,keys_erase]
   · next hmore=>
     exact h.listening hnodup (iff_of_true ((h.heard _).mp hheld) (by simpa using hmore))

end

theorem mirrored_step {e:Event L S} (h:Mirrored c) (hstep:step c e=some next):Mirrored next:=by
 cases he:e.topic? with
 | some t=>
  cases e with
  | subscribe topic l=>
   cases hstep
   exact h.subscribe topic l
  | unsubscribe topic l=>
   cases hstep
   exact h.unsubscribe topic l
  | _=>cases he
 | none=>
  obtain ⟨htopics,hls,hsocket⟩:=step_socket he hstep
  rw[←htopics] at hsocket
  have hkeyed:=htopics▸h.keyed
  have hheard:∀ key,key∈keys next.topics ↔ next.listeners key≠[]:=by
   rw[htopics,hls]
   exact h.heard
  have hnodup:=hls▸h.nodup
  rcases hsocket with hsame | hnone | ⟨id,hnew⟩ | ⟨s,hclosing⟩ | ⟨s,hs,hready,hopen⟩
  · refine ⟨hkeyed,hheard,hnodup,?_,?_⟩<;>rw[hsame]
    · exact h.silent
    · rw[htopics]
      exact h.mirror
  · refine ⟨hkeyed,hheard,hnodup,?_,?_⟩<;>simp[hnone]
  · refine ⟨hkeyed,hheard,hnodup,?_,?_⟩<;>simp[hnew]
  · refine ⟨hkeyed,hheard,hnodup,?_,?_⟩<;>simp[hclosing]
  · refine ⟨hkeyed,hheard,hnodup,by simp[hopen],?_⟩
    rw[hopen]
    rintro t ⟨⟩ -
    -- a socket has sent nothing before it opens
    rw[h.silent s hs hready]
    exact serve_all hkeyed next.topics.unique

/-- Whether the last call of `l` under a key subscribed. -/
def wanted (key:List Char) (l:L):Bool→List (Event L S)→Bool
 | w,[]=>w
 | w,.subscribe topic k::rest=>wanted key l (if topicKey topic=key∧k=l then true else w) rest
 | w,.unsubscribe topic k::rest=>wanted key l (if topicKey topic=key∧k=l then false else w) rest
 | w,_::rest=>wanted key l w rest

theorem wanted_run {events:List (Event L S)} {key:List Char} {l:L} {w:Bool} (hc:Mirrored c)
 (hw:l∈c.listeners key ↔ w=true) (hrun:run step c events=some next):
 l∈next.listeners key ↔ wanted key l w events=true:=by
 induction events generalizing c w with
 | nil=>
  cases hrun
  exact hw
 | cons e rest ih=>
  obtain ⟨btw,hstep,hrest⟩:=run_cons_eq_some.mp hrun
  have hbtw:=mirrored_step hc hstep
  cases e with
  | subscribe topic k=>
   cases hstep
   refine ih hbtw ?_ hrest
   have hls:(c.subscribe topic k).listeners=Function.update c.listeners (topicKey topic)
     (Client.add (c.listeners (topicKey topic)) k):=by
    unfold Client.subscribe
    dsimp only
    split<;>rfl
   rw[hls,Function.update_apply]
   grind[Client.add]
  | unsubscribe topic k=>
   cases hstep
   refine ih hbtw ?_ hrest
   have hls:(c.unsubscribe topic k).listeners=Function.update c.listeners (topicKey topic)
     ((c.listeners (topicKey topic)).filter (· ≠ k)):=by
    unfold Client.unsubscribe
    dsimp only
    split
    · next hget=>
      -- without an entry there is no listener to remove
      have hnone:c.listeners (topicKey topic)=[]:=by
       simpa[mem_keys,hget] using hc.heard (topicKey topic)
      grind
    · split<;>rfl
   rw[hls,Function.update_apply]
   grind
  | _=>
   refine ih hbtw ?_ hrest
   rw[(step_socket rfl hstep).2.1]
   exact hw

omit [DecidableEq L] [DecidableEq S] in
theorem mirrored_init:Mirrored ({}:Client L S):=by
 constructor<;>simp[keys]

/-- After any calls and events, the commands sent on an open socket leave a server with exactly the
keys under which the last call of some listener subscribed; no key was taken twice. -/
theorem server_holds_wanted {events:List (Event L S)} (h:run step {} events=some c) {s:Socket}
 (hs:c.socket=some s) (hopen:s.readyState=.opened):
 ∃ held,run serve [] s.sent=some held∧held.Nodup∧∀ key,key∈held ↔ ∃ l,wanted key l false events=true:=by
 have hc:=invariant Mirrored (fun _ _ _ hs hstep=>mirrored_step hs hstep) mirrored_init h
 refine ⟨keys c.topics,hc.mirror s hs hopen,c.topics.unique,fun key=>?_⟩
 have hwant:=fun l=>@wanted_run L S {} c _ _ events key l false mirrored_init (by simp) h
 rw[hc.heard]
 constructor
 · intro hne
   obtain ⟨l,hl⟩:=exists_mem_of_ne_nil _ hne
   exact ⟨l,(hwant l).mp hl⟩
 · grind

theorem server_holds_candle:∃ (c:Client ℕ ℕ) (s:Socket),
 run step {} [.subscribe ⟨.candle,"BTC","1m",none⟩ 7,.start,.opened]=some c∧c.socket=some s∧
  ∃ held,run serve [] s.sent=some held∧held.Nodup∧
   ∀ key,key∈held ↔ ∃ l,wanted key l false
    [.subscribe ⟨.candle,"BTC","1m",none⟩ 7,.start,(.opened:Event ℕ ℕ)]=true:=
 ⟨_,_,rfl,rfl,server_holds_wanted rfl rfl rfl⟩

/-- A message that is no error calls each listener whose last call under the key of the message
subscribed, once, and no other listener. -/
theorem delivered_to_wanted {events:List (Event L S)} (h:run step {} events=some c) (m:Message) (l:L):
 (c.delivered m).count l=if m.ch≠"error"∧wanted (messageKey m) l false events then 1 else 0:=by
 have hc:=invariant Mirrored (fun _ _ _ hs hstep=>mirrored_step hs hstep) mirrored_init h
 have hears:=@wanted_run L S {} c _ _ events (messageKey m) l false mirrored_init (by simp) h
 unfold Client.delivered
 by_cases herr:m.ch = "error"
 · simp[herr]
 rw[if_neg herr]
 split
 · next hget=>
   have hnone:c.listeners (messageKey m)=[]:=by
    simpa[mem_keys,hget] using hc.heard (messageKey m)
   rw[hnone] at hears
   simp_all
 · rw[(hc.nodup _).count]
   grind

theorem delivered_to_account:∃ c:Client ℕ ℕ,
 run step {} [.subscribe ⟨.account,none,none,"main"⟩ 7,.start,.opened]=some c∧
  (c.delivered ⟨"account.orders",none,none,"main"⟩).count 7=1:=
 ⟨_,rfl,(@delivered_to_wanted ℕ ℕ _ _ _ [.subscribe ⟨.account,none,none,"main"⟩ 7,.start,.opened] rfl _ 7).trans
  (by decide)⟩

end BolterTrader.Web.Realtime
