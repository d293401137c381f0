import BolterTrader.Foundations.Collections
import BolterTrader.Foundations.KeyedRows
import BolterTrader.Foundations.Transition

/-! Post requests of the Hyperliquid websocket client (`sdk/hyperliquid/ws_client.go`). -/
namespace BolterTrader.Hyperliquid
open Foundations Foundations.KeyedRows List Option

/-! ## The client -/

abbrev Socket:=ℕ

inductive Completion where
 | response (socket:Socket) | failure (socket:Socket) | contextDone | disconnected

inductive Owed where
 | result (completion:Completion) | close

structure Channel where
 socket:Socket:=0
 results:List Completion:=[]
 closes:ℕ:=0

structure Post where
 id:Int64
 channel:ℕ
 connection:Socket
 deriving DecidableEq

structure Call where
 socket:Socket
 id:Int64
 channel:ℕ
 registered:Bool:=false

structure Task where
 channel:ℕ
 owed:Owed

structure Client where
 current:Option Socket:=none
 dialled:ℕ:=0
 nextPostId:Int64:=0
 made:ℕ:=0
 channels:ℕ→Channel:=fun _=>{}
 posts:List Post:=[]
 calls:List Call:=[]
 tasks:List Task:=[]
 failing:List Socket:=[]
 failed:List Socket:=[]

def Client.take (client:Client) (owed:Owed) (doomed:Post→Bool):Client:=
 {client with
   posts:=client.posts.filter fun post=>!doomed post
   tasks:=client.tasks++(client.posts.filter doomed).map fun post=>⟨post.channel,owed⟩}

inductive Event where
 | dial
 | allocate (socket:Socket)
 | register (call:ℕ)
 | sent (call:ℕ)
 | discard (call:ℕ)
 | respond (socket:Socket) (id:Int64)
 | expire (id:Int64)
 | beginFail (socket:Socket)
 | endFail (call:ℕ)
 | disconnect
 | failAll
 | work (task:ℕ)

def Client.leave (client:Client) (index:ℕ):Client:={client with calls:=client.calls.eraseIdx index}

def Client.allocate (client:Client) (socket:Socket):Client:=
 {client with
   nextPostId:=client.nextPostId+1
   made:=client.made+1
   channels:=Function.update client.channels client.made {socket}
   calls:=client.calls++[{socket,id:=client.nextPostId+1,channel:=client.made}]}

def Client.register (client:Client) (index:ℕ) (call:Call):Client:=
 if client.current≠some call.socket then client.leave index
 else
  {client with
    posts:=put Post.id client.posts ⟨call.id,call.channel,call.socket⟩
    calls:=client.calls.eraseIdx index++[{call with registered:=true}]}

def Client.discard (client:Client) (index:ℕ) (call:Call):Client:=
 (client.leave index).take .close fun post=>post.id=call.id

def Client.beginFail (client:Client) (socket:Socket):Client:=
 {client.take (.result (.failure socket)) (fun post=>post.connection=socket) with
   failing:=socket::client.failing}

def Client.endFail (client:Client) (index:ℕ) (socket:Socket):Client:=
 {client with
   current:=if client.current=some socket then none else client.current
   failing:=client.failing.eraseIdx index
   failed:=socket::client.failed}

def Client.work (client:Client) (index:ℕ) (task:Task):Client:=
 let channel:=client.channels task.channel
 match task.owed with
 | .result completion=>
  {client with
    channels:=Function.update client.channels task.channel
     {channel with results:=channel.results++[completion]}
    tasks:=⟨task.channel,.close⟩::client.tasks.eraseIdx index}
 | .close=>
  {client with
    channels:=Function.update client.channels task.channel {channel with closes:=channel.closes+1}
    tasks:=client.tasks.eraseIdx index}

def step (client:Client):Event→Option Client
 | .dial=>
  if client.current=none then
   some {client with current:=some client.dialled,dialled:=client.dialled+1}
  else none
 | .allocate socket=>if socket<client.dialled then some (client.allocate socket) else none
 | .register index=>(client.calls[index]?.filter fun call=>!call.registered).map (client.register index)
 | .sent index=>
  (client.calls[index]?.filter fun call=>call.registered && client.current == some call.socket).map fun _=>
   client.leave index
 | .discard index=>(client.calls[index]?.filter Call.registered).map (client.discard index)
 | .respond socket id=>
  some (client.take (.result (.response socket)) fun post=>post.connection=socket∧post.id=id)
 | .expire id=>some (client.take (.result .contextDone) fun post=>post.id=id)
 | .beginFail socket=>if socket<client.dialled then some (client.beginFail socket) else none
 | .endFail index=>client.failing[index]?.map (client.endFail index)
 | .disconnect=>some {client with current:=none}
 | .failAll=>some (client.take (.result .disconnected) fun _=>true)
 | .work index=>client.tasks[index]?.map (client.work index)

/-! ## Who holds a channel -/

inductive Stage where
 | waiting (socket:Socket) | owed (owed:Owed)

def Call.holder (call:Call):ℕ×Stage:=(call.channel,.waiting call.socket)
def Post.holder (post:Post):ℕ×Stage:=(post.channel,.waiting post.connection)
def Task.holder (task:Task):ℕ×Stage:=(task.channel,.owed task.owed)

def Client.holders (client:Client):List (ℕ×Stage):=
 (client.calls.filter fun call=>!call.registered).map Call.holder++client.posts.map Post.holder ++
  client.tasks.map Task.holder

def Completion.Concerns (socket:Socket):Completion→Prop
 | .response of | .failure of=>of=socket
 | .contextDone | .disconnected=>True

def Stage.Fits (channel:Channel):Stage→Prop
 | .waiting socket=>channel.socket=socket∧channel.results=[]∧channel.closes=0
 | .owed (.result completion)=>completion.Concerns channel.socket∧channel.results=[]∧channel.closes=0
 | .owed .close=>channel.closes=0

structure Channel.Once (channel:Channel):Prop where
 results:channel.results.length≤1
 closes:channel.closes≤1
 concerns:∀ completion∈channel.results,completion.Concerns channel.socket

structure Held (client:Client):Prop where
 distinct:(client.holders.map Prod.fst).Nodup
 made:∀ holder∈client.holders,holder.1<client.made
 fits:∀ holder∈client.holders,holder.2.Fits (client.channels holder.1)
 once:∀ number,(client.channels number).Once

variable {client next:Client}

theorem Held.pass (h:Held client) (hcha:next.channels=client.channels)
 (hmade:next.made=client.made)
 (hnum:(next.holders.map Prod.fst).Subperm (client.holders.map Prod.fst))
 (hfits:∀ holder∈next.holders,holder.2.Fits (client.channels holder.1)):Held next:=by
 refine ⟨nodup_of_subperm hnum h.distinct,?_,?_,?_⟩
 · intro holder hhol
   have hn:=hnum.subset (mem_map_of_mem hhol)
   obtain ⟨old,hold,heq⟩:=mem_map.mp hn
   rw[hmade,←heq]
   exact h.made old hold
 · rw[hcha]
   exact hfits
 · rw[hcha]
   exact h.once

theorem Held.drop (h:Held client) (hcha:next.channels=client.channels)
 (hmade:next.made=client.made) (hhold:next.holders.Subperm client.holders):Held next:=
 h.pass hcha hmade (subperm_map hhold Prod.fst) fun holder hhol=>h.fits holder (hhold.subset hhol)

theorem Held.write (h:Held client) {num1:ℕ} {change:Channel} (stage:Option Stage)
 {others:List (ℕ×Stage)}
 (hcha:next.channels=Function.update client.channels num1 change)
 (hmade:client.made≤next.made) (hn:num1<next.made)
 (hos:others.Subperm client.holders) (hfree:∀ oth∈others,oth.1≠num1)
 (hhold:next.holders.Perm ((stage.map (num1,·)).toList++others))
 (hsg:∀ s∈stage,s.Fits change) (honce:change.Once):Held next:=by
 have hmem:∀ holder∈next.holders,
   (∃ s∈stage,(num1,s)=holder)∨holder∈others:=by
  intro holder hhol
  simpa using hhold.subset hhol
 refine ⟨?_,?_,?_,?_⟩
 · rw[(hhold.map Prod.fst).nodup_iff,map_append]
   have hdis:=nodup_of_subperm (subperm_map hos Prod.fst) h.distinct
   cases stage with
   | none=>simpa using hdis
   | some=>simpa using ⟨fun s' hs'=>hfree _ hs' rfl,hdis⟩
 · intro holder hhol
   rcases hmem holder hhol with ⟨s,-,rfl⟩ | hoth
   · exact hn
   · exact Nat.lt_of_lt_of_le (h.made holder (hos.subset hoth)) hmade
 · intro holder hhol
   rw[hcha]
   rcases hmem holder hhol with ⟨s,hs,rfl⟩ | hoth
   · grind
   · rw[Function.update_of_ne (hfree holder hoth)]
     exact h.fits holder (hos.subset hoth)
 · intro oth
   rw[hcha]
   by_cases heq:oth=num1
   · grind
   · rw[Function.update_of_ne heq]
     exact h.once oth

/-! ## Every step keeps the holders -/

theorem Held.leave (h:Held client) (ix:ℕ):Held (client.leave ix):=by
 refine h.drop rfl rfl (Sublist.subperm ?_)
 have hcal:=((eraseIdx_sublist client.calls ix).filter fun call=>!call.registered).map Call.holder
 exact (hcal.append (.refl _)).append (.refl _)

theorem Held.take (h:Held client) {owed:Owed} {dmd:Post→Bool}
 (howed:∀ post,dmd post=true → ∀ change,(Stage.waiting post.connection).Fits change →
  (Stage.owed owed).Fits change):Held (client.take owed dmd):=by
 refine h.pass rfl rfl ?_ ?_
 · -- the numbers of the posts taken move to the tasks
   have hpos:=(filter_append_perm dmd client.posts).map (Prod.fst ∘ Post.holder)
   have htas:(client.posts.filter dmd).map (Prod.fst ∘ Task.holder ∘ fun post=>⟨post.channel,owed⟩) =
    (client.posts.filter dmd).map (Prod.fst ∘ Post.holder):=rfl
   refine (perm_iff_count.mpr fun num1=>?_).subperm
   have hct:=hpos.count_eq num1
   simp only[Client.take,Client.holders,map_append,List.map_map,count_append,htas] at hct ⊢
   omega
 · intro holder hhol
   simp only[Client.take,Client.holders,map_append,mem_append,List.map_map] at hhol
   rcases hhol with (hcall | hpost) | (htask | hdoo)
   · exact h.fits holder (mem_append_left _ (mem_append_left _ hcall))
   · have hold:=(filter_sublist.map Post.holder).subset hpost
     exact h.fits holder (mem_append_left _ (mem_append_right _ hold))
   · exact h.fits holder (mem_append_right _ htask)
   · obtain ⟨post,hpost,rfl⟩:=mem_map.mp hdoo
     obtain ⟨hpost,hm⟩:=mem_filter.mp hpost
     refine howed post hm _ (h.fits post.holder ?_)
     exact mem_append_left _ (mem_append_right _ (mem_map_of_mem hpost))

theorem Held.complete (h:Held client) {cmp:Completion} {dmd:Post→Bool}
 (hcon:∀ post,dmd post=true→ cmp.Concerns post.connection):
 Held (client.take (.result cmp) dmd):=by
 apply h.take
 rintro post hdoo change ⟨hsk,hwri⟩
 exact ⟨hsk▸hcon post hdoo,hwri⟩

theorem Held.register (h:Held client) {ix:ℕ} {call:Call} (hcall:client.calls[ix]?=some call)
 (hnew:call.registered=false):Held (client.register ix call):=by
 unfold Client.register
 split
 · exact h.leave ix
 refine h.drop rfl rfl ?_
 let others:=(client.calls.eraseIdx ix).filter fun call=>!call.registered
 let kept:=(erase Post.id client.posts call.id).map Post.holder
 -- the call's channel goes from the calls to the posts, where it may replace another
 have hcal:((client.calls.filter fun call=>!call.registered).map Call.holder).Perm
   (call.holder::others.map Call.holder):=by
  have hperm:=((perm_cons_eraseIdx hcall).filter fun call=>!call.registered).map Call.holder
  rwa[filter_cons_of_pos (by simp[hnew])] at hperm
 have hpos:kept.Sublist (client.posts.map Post.holder):=filter_sublist.map Post.holder
 have hmov:(others.map Call.holder++(kept++[call.holder])).Perm
   (call.holder::others.map Call.holder++kept):=by
  rw[←append_assoc]
  exact perm_append_singleton _ _
 have hcaAn:=(hmov.trans (hcal.symm.append_right kept)).subperm.trans
  ((Sublist.refl _).append hpos).subperm
 have hhold:=List.Subperm.append hcaAn (.refl (client.tasks.map Task.holder))
 simpa[Client.holders,put,others,kept,Call.holder,Post.holder] using hhold

theorem Held.allocate (h:Held client) (socket:Socket):Held (client.allocate socket):=by
 have hfr:(Stage.waiting socket).Fits {socket}:=⟨rfl,rfl,rfl⟩
 have honce:({socket}:Channel).Once:=⟨Nat.zero_le _,Nat.zero_le _,by simp⟩
 have hfree:∀ oth∈client.holders,oth.1≠client.made:=fun oth hoth=>Nat.ne_of_lt (h.made oth hoth)
 have hhold:(client.allocate socket).holders.Perm ((client.made,.waiting socket)::client.holders):=by
  simp only[Client.allocate,Client.holders,filter_append,map_append,append_assoc]
  exact perm_middle
 exact h.write (some (.waiting socket)) rfl (Nat.le_succ _) (Nat.lt_succ_self _) (.refl _) hfree hhold
  (by simpa using hfr) honce

theorem Held.work (h:Held client) {ix:ℕ} {task:Task} (htask:client.tasks[ix]?=some task):
 Held (client.work ix task):=by
 let others:=(client.calls.filter fun call=>!call.registered).map Call.holder ++
  client.posts.map Post.holder++(client.tasks.eraseIdx ix).map Task.holder
 have hperm:client.holders.Perm (task.holder::others):=
  (((perm_cons_eraseIdx htask).map Task.holder).append_left _).trans perm_middle
 have hos:others.Subperm client.holders:=(sublist_cons_self _ _).subperm.trans hperm.symm.subperm
 have hdis:=(hperm.map Prod.fst).nodup h.distinct
 have hfree:∀ oth∈others,oth.1≠task.channel:=by
  intro oth hoth heq
  exact (nodup_cons.mp hdis).1 (mem_map.mpr ⟨oth,hoth,heq⟩)
 have hmem:task.holder∈client.holders:=hperm.symm.subset mem_cons_self
 have hfits:(Stage.owed task.owed).Fits (client.channels task.channel):=h.fits task.holder hmem
 have hn:task.channel<client.made:=h.made task.holder hmem
 have honce:=h.once task.channel
 unfold Client.work
 cases howed : task.owed with
 | result=>
  rw[howed] at hfits
  obtain ⟨hcon,hres,hclo⟩:=hfits
  refine h.write (some (.owed .close)) rfl (Nat.le_refl client.made) hn hos hfree perm_middle ?_ ?_
  · simpa[Stage.Fits] using hclo
  · exact ⟨by simp[hres],honce.closes,by simpa[hres] using hcon⟩
 | close=>
  rw[howed] at hfits
  have hclo:(client.channels task.channel).closes=0:=hfits
  refine h.write none rfl (Nat.le_refl client.made) hn hos hfree (.refl _) (by simp) ?_
  exact ⟨honce.results,by simp[hclo],honce.concerns⟩

theorem Held.step {ev:Event} (h:Held client) (hstep:step client ev=some next):Held next:=by
 cases ev with
 | dial=>
  obtain ⟨-,hnext⟩:=ite_none_right_eq_some.mp hstep
  cases hnext
  exact h.drop rfl rfl (.refl _)
 | allocate sk=>
  obtain ⟨-,hnext⟩:=ite_none_right_eq_some.mp hstep
  cases hnext
  exact h.allocate sk
 | register=>
  obtain ⟨call,hcall,rfl⟩:=map_eq_some_iff.mp hstep
  obtain ⟨hcall,hnew⟩:=filter_eq_some_iff.mp hcall
  exact h.register hcall (by simpa using hnew)
 | sent ix=>
  obtain ⟨call,-,rfl⟩:=map_eq_some_iff.mp hstep
  exact h.leave ix
 | discard ix=>
  obtain ⟨call,-,rfl⟩:=map_eq_some_iff.mp hstep
  exact (h.leave ix).take fun post _ change hfits=>hfits.2.2
 | respond=>
  cases hstep
  exact h.complete fun post hdoo=>(of_decide_eq_true hdoo).1.symm
 | expire | failAll=>
  cases hstep
  exact h.complete fun _ _=>trivial
 | beginFail sk=>
  obtain ⟨-,hnext⟩:=ite_none_right_eq_some.mp hstep
  cases hnext
  have hf:Held (client.take (.result (.failure sk)) fun post=>post.connection=sk):=
   h.complete fun post hdoo=>(of_decide_eq_true hdoo:post.connection=sk).symm
  exact hf.drop rfl rfl (.refl _)
 | endFail=>
  obtain ⟨sk,-,rfl⟩:=map_eq_some_iff.mp hstep
  exact h.drop rfl rfl (.refl _)
 | disconnect=>
  cases hstep
  exact h.drop rfl rfl (.refl _)
 | work=>
  obtain ⟨task,htask,rfl⟩:=map_eq_some_iff.mp hstep
  exact h.work htask

theorem held_initial:Held {}:=
 ⟨by simp[Client.holders],by simp[Client.holders],by simp[Client.holders],
  fun _=>⟨Nat.zero_le _,Nat.zero_le _,by simp⟩⟩

/-! ## Results -/

theorem result_channel_once (events:List Event):
 ∀ client,Transition.run step {} events=some client → ∀ number,(client.channels number).Once:=by
 intro client hrun
 exact (Transition.invariant Held (fun _ _ _ h hstep=>h.step hstep) held_initial hrun).once

def answeredThenLost:List Event:=
 [.dial,.allocate 0,.register 0,.sent 0,.respond 0 1,.work 0,.beginFail 0,.endFail 0,.expire 1,.work 0]

theorem answered_once:∃ client,Transition.run step {} answeredThenLost=some client∧
 client.channels 0 = {socket:=0,results:=[.response 0],closes:=1}∧
 ∀ number,(client.channels number).Once:=
 ⟨_,rfl,rfl,result_channel_once answeredThenLost _ rfl⟩

/-! ## Posts on a failed socket -/

def NoneWaiting (client:Client):Prop:=∀ socket∈client.failed,∀ post∈client.posts,post.connection≠socket

def NotWhileFailing (client:Client):Event→Prop
 | .register index=>∀ call∈client.calls[index]?,call.socket∉client.failing
 | _=>True

instance (client:Client) (event:Event):Decidable (NotWhileFailing client event):=by
 unfold NotWhileFailing
 split<;>infer_instance

structure Detached (client:Client):Prop where
 dialled:∀ socket∈client.failing++client.failed,socket<client.dialled
 gone:∀ socket∈client.failed,client.current≠some socket
 idle:∀ socket∈client.failing++client.failed,∀ post∈client.posts,post.connection≠socket

theorem Detached.fewer (h:Detached client) (hdia:next.dialled=client.dialled)
 (hcurr:next.current=client.current) (hfai:next.failing=client.failing)
 (hf:next.failed=client.failed) (hpos:next.posts ⊆ client.posts):Detached next:=by
 refine ⟨?_,?_,?_⟩
 · rw[hfai,hf,hdia]
   exact h.dialled
 · rw[hf,hcurr]
   exact h.gone
 · rw[hfai,hf]
   exact fun sk hsk post hpost=>h.idle sk hsk post (hpos hpost)

theorem Detached.take (h:Detached client) (owed:Owed) (dmd:Post→Bool):
 Detached (client.take owed dmd):=
 h.fewer rfl rfl rfl rfl filter_sublist.subset

theorem Detached.register (h:Detached client) (ix:ℕ) {call:Call} (hcall:call.socket∉client.failing):
 Detached (client.register ix call):=by
 unfold Client.register
 split
 · exact h.fewer rfl rfl rfl rfl (Subset.refl _)
 rename_i hcurr
 refine ⟨h.dialled,h.gone,?_⟩
 intro sk hsk post hpost
 rcases mem_append.mp hpost with hold | hnew
 · exact h.idle sk hsk post (mem_of_mem_filter hold)
 · rintro rfl
   rw[mem_singleton.mp hnew] at hsk
   rcases mem_append.mp hsk with hfai | hf
   · exact hcall hfai
   · exact hcurr (h.gone call.socket hf)

theorem Detached.beginFail (h:Detached client) {sk:Socket} (hdia:sk<client.dialled):
 Detached (client.beginFail sk):=by
 have htak:=h.take (.result (.failure sk)) fun post=>post.connection=sk
 refine ⟨?_,h.gone,?_⟩
 · intro oth hoth
   rcases mem_cons.mp hoth with rfl | hoth
   · exact hdia
   · exact h.dialled oth hoth
 · intro oth hoth post hpost
   rcases mem_cons.mp hoth with rfl | hoth
   · simpa using (mem_filter.mp hpost).2
   · exact htak.idle oth hoth post hpost

theorem Detached.endFail (h:Detached client) {ix:ℕ} {sk:Socket}
 (hsk:client.failing[ix]?=some sk):Detached (client.endFail ix sk):=by
 have hold:∀ oth∈(client.endFail ix sk).failing++(client.endFail ix sk).failed,
   oth∈client.failing++client.failed:=by
  intro oth hoth
  have hera:=(eraseIdx_sublist client.failing ix).subset
  rcases mem_append.mp hoth with hfai | hf
  · exact mem_append_left _ (hera hfai)
  · rcases mem_cons.mp hf with rfl | hf
    all_goals grind
 refine ⟨fun oth hoth=>h.dialled oth (hold oth hoth),?_,fun oth hoth=>h.idle oth (hold oth hoth)⟩
 intro oth hoth
 unfold Client.endFail
 split
 · exact nofun
 · rename_i hcurr
   rcases mem_cons.mp hoth with rfl | hf
   · exact hcurr
   · exact h.gone oth hf

theorem Detached.step {ev:Event} (h:Detached client) (hok:NotWhileFailing client ev)
 (hstep:step client ev=some next):Detached next:=by
 cases ev with
 | dial=>
  obtain ⟨-,hnext⟩:=ite_none_right_eq_some.mp hstep
  cases hnext
  refine ⟨fun sk hsk=>Nat.lt_succ_of_lt (h.dialled sk hsk),?_,h.idle⟩
  intro sk hf hcurr
  cases hcurr
  exact Nat.lt_irrefl _ (h.dialled _ (mem_append_right _ hf))
 | allocate=>
  obtain ⟨-,hnext⟩:=ite_none_right_eq_some.mp hstep
  cases hnext
  exact h.fewer rfl rfl rfl rfl (Subset.refl _)
 | register ix=>
  obtain ⟨call,hcall,rfl⟩:=map_eq_some_iff.mp hstep
  exact h.register ix (hok call (filter_eq_some_iff.mp hcall).1)
 | sent=>
  obtain ⟨call,-,rfl⟩:=map_eq_some_iff.mp hstep
  exact h.fewer rfl rfl rfl rfl (Subset.refl _)
 | discard=>
  obtain ⟨call,-,rfl⟩:=map_eq_some_iff.mp hstep
  exact h.fewer rfl rfl rfl rfl filter_sublist.subset
 | respond | expire | failAll=>
  cases hstep
  exact h.take _ _
 | beginFail=>
  obtain ⟨hdia,hnext⟩:=ite_none_right_eq_some.mp hstep
  cases hnext
  exact h.beginFail hdia
 | endFail=>
  obtain ⟨sk,hsk,rfl⟩:=map_eq_some_iff.mp hstep
  exact h.endFail hsk
 | disconnect=>
  cases hstep
  exact ⟨h.dialled,fun sk _=>nofun,h.idle⟩
 | work=>
  obtain ⟨task,-,rfl⟩:=map_eq_some_iff.mp hstep
  unfold Client.work
  split<;>exact h.fewer rfl rfl rfl rfl (Subset.refl _)

theorem detached_initial:Detached {}:=⟨by simp,by simp,by simp⟩

/-- No request waits on a socket that has failed. -/
theorem none_waiting_on_failed (events:List Event) (hok:Transition.Along step NotWhileFailing {} events):
 ∀ client,Transition.run step {} events=some client→NoneWaiting client:=by
 intro client hrun socket hf
 have hdet:=Transition.invariant_along Detached (fun _ _ _ h hok hstep=>h.step hok hstep)
  detached_initial hok hrun
 exact hdet.idle socket (mem_append_right _ hf)

def failedBeforeRegister:List Event:=[.dial,.allocate 0,.beginFail 0,.endFail 0,.register 0]

theorem refused_after_failure:Transition.Along step NotWhileFailing {} failedBeforeRegister∧
 ∃ client,Transition.run step {} failedBeforeRegister=some client∧client.failed=[0]∧NoneWaiting client:=
 ⟨by decide,_,rfl,rfl,none_waiting_on_failed failedBeforeRegister (by decide) _ rfl⟩

def registeredWhileFailing:List Event:=[.dial,.allocate 0,.beginFail 0,.register 0,.sent 0,.endFail 0]

theorem caller_left_waiting:∃ client,Transition.run step {} registeredWhileFailing=some client∧
 client.posts=[⟨1,0,0⟩]∧client.failed=[0]∧client.current=none∧client.tasks=[]∧
 client.calls=[]∧client.channels 0 = {socket:=0}∧¬NoneWaiting client:=by
 refine ⟨_,rfl,by decide,rfl,rfl,rfl,rfl,rfl,?_⟩
 intro hnone
 exact hnone 0 (by decide) ⟨1,0,0⟩ (by decide) rfl

end BolterTrader.Hyperliquid
