import BolterTrader.Foundations.GoText
import BolterTrader.Trader.Auth

/-! Requests of the browser (`trader/server.go`): which of them reach the gateway. -/
namespace BolterTrader.Trader
open List Foundations

inductive Method
 | get | head | post | other
deriving DecidableEq

/-- `token` is what a new session would draw, and `login` what a login makes of the body. -/
structure Request where
 method:Method
 path:String
 host:String
 origin:String
 referer:String
 bolter:String
 cookie:Option String
 now:Int
 login:Login
 token:String

inductive Answer
 | csrf
 | unauthenticated
 | notFound
 | signIn (reply:Reply)
 | signedIn (token:String)
 | signedOut
 | session (valid:Bool)
 | bridged
 | forwarded (path:String)
 | page

structure Server where
 sessions:Sessions:={}
 throttle:Throttle:={}

def Request.reads (r:Request):Prop:=r.method=.get∨r.method=.head

instance (r:Request):Decidable r.reads:=inferInstanceAs (Decidable (_∨_))

/-- The origin of a request, or its referer, names the host that the request is for. `urlHost` is the host that
`url.Parse` finds, none for a text it refuses. -/
def Request.sameOrigin (urlHost : String → Option String) (r : Request) : Bool :=
  let source := if r.origin = "" then r.referer else r.origin
  if source = "" then false
  else
    match urlHost source with
    | none => false
    | some host => host ≠ "" && GoText.equalFold host r.host

def Request.under (r:Request) (dir:String):Bool:=dir.toList.isPrefixOf r.path.toList

def Server.valid (s:Server) (r:Request):Bool×Server:=
 match r.cookie with
 | none=>(false,s)
 | some token=>((s.sessions.valid token r.now).1,{s with sessions:=(s.sessions.valid token r.now).2})

def Server.authenticated (s:Server) (r:Request) (next:Answer):Answer×Server:=
 if (s.valid r).1 then (next,(s.valid r).2) else (.unauthenticated,(s.valid r).2)

def Server.login (s:Server) (r:Request):Answer×Server:=
 match Trader.login s.throttle r.login with
 | (.accepted,throttle)=>(.signedIn r.token,⟨s.sessions.create r.token r.now,throttle⟩)
 | (reply,throttle)=>(.signIn reply,{s with throttle})

def Server.logout (s:Server) (r:Request):Answer×Server:=
 match r.cookie with
 | none=>(.signedOut,s)
 | some token=>(.signedOut,{s with sessions:=s.sessions.delete token})

/-- The path that the gateway sees is the one after `/api/gw`. -/
def Request.forward (r:Request):Answer:=
 if r.path = "/api/gw/v1/ws" then .notFound else .forwarded (String.ofList (r.path.toList.drop 7))

section
variable (urlHost : String → Option String)

def Request.websocket (r:Request):Answer:=if r.sameOrigin urlHost then .bridged else .csrf

def Server.serve (s:Server) (r:Request):Answer×Server:=
 if r.under "/api/"∧¬r.reads∧(r.sameOrigin urlHost=false∨r.bolter≠"1") then (.csrf,s)
 else if r.path = "/api/auth/login"∧r.method=.post then s.login r
 else if r.path = "/api/auth/logout"∧r.method=.post then s.logout r
 else if r.path = "/api/auth/session"∧r.reads then (.session (s.valid r).1,(s.valid r).2)
 else if r.path = "/api/ws"∧r.reads then s.authenticated r (r.websocket urlHost)
 else if r.under "/api/gw/v1/" then s.authenticated r r.forward
 else if r.under "/api/" then (.notFound,s)
 else (.page,s)

end

def Answer.Reaches (a:Answer):Prop:=a=.bridged∨∃ path,a=.forwarded path

/-! ## What a request does to a session -/

/-- A session after a request is new from a login, or was there before and was not signed out. -/
def Keeps (s:Server) (r:Request) (x:Answer×Server):Prop:=
 ∀ token row,x.2.sessions.get token=some row→
  x.1=.signedIn token∧row.created=r.now∨
  (∃ old,s.sessions.get token=some old∧old.created=row.created)∧¬(x.1=.signedOut∧r.cookie=some token)

theorem valid_row {s:Server} {r:Request} {token:String} {row:Session}
 (h:(s.valid r).2.sessions.get token=some row):∃ old,s.sessions.get token=some old∧old.created=row.created:=by
 unfold Server.valid at h
 split at h
 · exact ⟨row,h,rfl⟩
 · next t _=>
  by_cases ht:t = ""
  · simp only[Sessions.valid,if_pos ht] at h
    exact ⟨row,h,rfl⟩
  by_cases hne:token=t
  · grind [valid_get]
  · rw[valid_other hne] at h
    exact ⟨row,h,rfl⟩

theorem keeps_authenticated (s:Server) (r:Request) {next:Answer} (h:next≠.signedOut):
 Keeps s r (s.authenticated r next):=by
 unfold Server.authenticated
 split
 · exact fun _ _ hrow=>.inr ⟨valid_row hrow,fun hout=>h hout.1⟩
 · exact fun _ _ hrow=>.inr ⟨valid_row hrow,by simp⟩

theorem keeps_same (s:Server) (r:Request) {a:Answer} {throttle:Throttle} (h:a≠.signedOut):
 Keeps s r (a,{s with throttle}):=
 fun _ row hrow=>.inr ⟨⟨row,hrow,rfl⟩,fun hout=>h hout.1⟩

theorem keeps_login (s:Server) (r:Request):Keeps s r (s.login r):=by
 unfold Server.login
 split
 · intro token row hrow
   rw[Sessions.create,Table.get_put] at hrow
   grind
 · exact keeps_same s r (by simp)

theorem keeps_logout (s:Server) (r:Request):Keeps s r (s.logout r):=by
 intro token row hrow
 unfold Server.logout at hrow ⊢
 cases hcookie:r.cookie with
 | none=>
  grind
 | some t=>
  grind [Sessions.delete,Table.get_erase]

section
variable (urlHost : String → Option String)

theorem keeps_serve (s:Server) (r:Request):Keeps s r (s.serve urlHost r):=by
 unfold Server.serve
 split_ifs
 · exact keeps_same s r (by simp)
 · exact keeps_login s r
 · exact keeps_logout s r
 · exact fun _ _ hrow=>.inr ⟨valid_row hrow,by simp⟩
 · grind [keeps_authenticated,Request.websocket]
 · grind [keeps_authenticated,Request.forward]
 · exact keeps_same s r (by simp)
 · exact keeps_same s r (by simp)

/-! ## Whole runs -/

/-- The server after some requests, the latest first, and what was answered. -/
def after:List Request→Server×List (Request×Answer)
 | []=>({},[])
 | r::past=>(((after past).1.serve urlHost r).2,(r,((after past).1.serve urlHost r).1)::(after past).2)

/-- The log holds the login that issued a token, and no later sign-out of it. -/
def Issued (log:List (Request×Answer)) (token:String) (created:Int):Prop:=
 ∃ later r₀ earlier,log=later++(r₀,.signedIn token)::earlier∧r₀.now=created∧
  ∀ x∈later,¬(x.2=.signedOut∧x.1.cookie=some token)

theorem issued_after (past:List Request) {token:String} {row:Session}
 (h:(after urlHost past).1.sessions.get token=some row):Issued (after urlHost past).2 token row.created:=by
 induction past generalizing row with
 | nil=>cases h
 | cons r past ih=>
  rcases keeps_serve urlHost _ r token row h with ⟨hnew,hnow⟩ | ⟨⟨old,hold,hcreated⟩,hkept⟩
  · refine ⟨[],r,(after urlHost past).2,?_,hnow.symm,by simp⟩
    rw[after,hnew]
    rfl
  · obtain ⟨later,r₀,earlier,hlog,hnow,hlater⟩:=ih hold
    refine ⟨(r,((after urlHost past).1.serve urlHost r).1)::later,r₀,earlier,?_,hnow.trans hcreated,?_⟩
    · rw[after,hlog]
      rfl
    all_goals grind

theorem valid_true {s:Sessions} {token:String} {now:Int} (h:(s.valid token now).1=true):
 ∃ row,s.get token=some row∧now-row.created≤ sessionAbsolute:=by
 unfold Sessions.valid at h
 grind

theorem authenticated_reaches {s:Server} {r:Request} {next:Answer} (h:(s.authenticated r next).1.Reaches):
 (s.valid r).1=true:=by
 grind [Server.authenticated,Answer.Reaches]

variable {urlHost}

theorem serve_reaches {s:Server} {r:Request} (h:(s.serve urlHost r).1.Reaches):
 (r.reads∨r.sameOrigin urlHost=true∧r.bolter = "1")∧(s.valid r).1=true:=by
 unfold Server.serve at h
 split_ifs at h with hcsrf hlogin hlogout hsession hws hgw hapi
 · simp[Answer.Reaches] at h
 · grind [Server.login,Answer.Reaches]
 · grind [Server.logout,Answer.Reaches]
 · simp[Answer.Reaches] at h
 · exact ⟨.inl hws.2,authenticated_reaches h⟩
 · refine ⟨?_,authenticated_reaches h⟩
   have hunder:r.under "/api/"=true:= isPrefixOf_iff_prefix.mpr
     ((by decide : "/api/".toList <+: "/api/gw/v1/".toList).trans ( isPrefixOf_iff_prefix.mp hgw))
   grind
 · simp[Answer.Reaches] at h
 · simp[Answer.Reaches] at h

/-- After any requests, one that reaches the gateway only reads or comes from the own origin with the
header of the page, and its cookie was issued by a login at most seven days before, with no sign-out
of it since. -/
theorem reaches_signed_in {past : List Request} {r : Request}
    (h : ((after urlHost past).1.serve urlHost r).1.Reaches) :
    (r.reads ∨ r.sameOrigin urlHost = true ∧ r.bolter = "1") ∧ ∃ token, r.cookie = some token ∧
      ∃ created, Issued (after urlHost past).2 token created ∧ r.now - created ≤ sessionAbsolute := by
 obtain ⟨hsafe,hvalid⟩:=serve_reaches h
 refine ⟨hsafe,?_⟩
 unfold Server.valid at hvalid
 split at hvalid
 · cases hvalid
 · next token hcookie=>
  obtain ⟨row,hrow,hage⟩:=valid_true hvalid
  exact ⟨token,hcookie,row.created,issued_after urlHost past hrow,hage⟩

end

def deskHost (source : String) : Option String := if source = "https://desk.local" then some "desk.local" else none

def signIn : Request where
  method := .post
  path := "/api/auth/login"
  host := "desk.local"
  origin := "https://desk.local"
  referer := ""
  bolter := "1"
  cookie := none
  now := 5
  login := ⟨"10.0.0.1", 4, 5, some true⟩
  token := "t"

theorem order_reaches : ∃ created, Issued (after deskHost [signIn]).2 "t" created ∧ 9 - created ≤ sessionAbsolute := by
  obtain ⟨-, _, ⟨⟩, hissued⟩ := @reaches_signed_in deskHost [signIn]
    {signIn with path := "/api/gw/v1/orders", cookie := some "t", now := 9, origin := "", referer := "https://desk.local"}
    (.inr ⟨_, rfl⟩)
  exact hissued

end BolterTrader.Trader
