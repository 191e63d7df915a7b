import WasmCloud.Gateway.Http
import WasmCloud.Limits.Pruning

/-!
# The Address of an Admin Client

A proxy that is trusted puts the address it was called from at the end of a header, after
whatever its client has sent there. The first entry is read, which is the client's own, so a
client is whoever it says it is, and has a new bucket for every name.

## Main definitions

* `extractClientIp`: The address a request is limited by.
* `chosen`: The address that a text of the client leads to.

## Theorems

* `client_ip_fixed_iff`: Two texts give one address exactly if they lead to the same one.
-/

namespace WasmCloud

namespace ClientIp

variable (http : HttpCrate) (parseIp : String → Option IpAddr) (headers : HeaderMap)

def extractForwardedClientIp : Option IpAddr :=
  ((headerStr http headers "x-forwarded-for").bind
      (fun val => parseIp (Text.trim ((Text.split val ',').headD "")))).or
    ((headerStr http headers "x-real-ip").bind parseIp)

/-- `peer_is_trusted`. A network is the addresses it contains. -/
def peerIsTrusted (peerIp : IpAddr) (trustedProxies : List (IpAddr → Bool)) : Bool :=
  trustedProxies.any (fun net => net peerIp)

def extractClientIp (peerAddr : Option SocketAddr)
    (trustedProxies : List (IpAddr → Bool)) : Option IpAddr :=
  match peerAddr.map SocketAddr.ip with
  | some ip =>
    if peerIsTrusted ip trustedProxies then
      (extractForwardedClientIp http parseIp headers).or (some ip)
    else some ip
  | none => none

/-- `HeaderValue::to_str` reads byte by byte. -/
structure ReadsBytes : Prop where
  append : ∀ xs ys, http.toStr ⟨xs ++ ys⟩ =
    (http.toStr ⟨xs⟩).bind (fun s => (http.toStr ⟨ys⟩).map (fun t => s ++ t))
  comma : http.toStr ⟨[44, 32]⟩ = some ", "

/-- What the client sent, and behind it the address the proxy was called from. -/
def appended (sent address : List UInt8) : HeaderMap :=
  headers.insert ⟨"x-forwarded-for"⟩ ⟨sent ++ [44, 32] ++ address⟩

def beforeComma (val : String) : String :=
  String.ofList (val.toList.takeWhile (fun d => d != ','))

/-- The first address the client names, or else that of the other header or of the proxy. -/
def chosen (peer : SocketAddr) (sent : List UInt8) : IpAddr :=
  (((http.toStr ⟨sent⟩).bind (fun val => parseIp (Text.trim (beforeComma val)))).or
    ((headerStr http headers "x-real-ip").bind parseIp)).getD peer.ip

variable {http} {parseIp} {headers} {peer : SocketAddr} {sent address : List UInt8}

theorem takeWhile_append_stop {α : Type} {p : α → Bool} (xs : List α) {y : α} (ys : List α)
    (hy : p y = false) : (xs ++ y :: ys).takeWhile p = xs.takeWhile p := by
  induction xs with
  | nil => simp [hy]
  | cons x xs ih => simp [List.takeWhile_cons, ih]

/-- Nothing behind a comma matters. -/
theorem headD_split_comma (val rest : String) :
    (Text.split (val ++ (", " ++ rest)) ',').headD "" = beforeComma val := by
  rw [Text.headD_split, beforeComma, String.toList_append, String.toList_append]
  exact congrArg String.ofList (takeWhile_append_stop val.toList (' ' :: rest.toList) rfl)

theorem headerStr_appended (hreads : ReadsBytes http) {rest : String}
    (haddress : http.toStr ⟨address⟩ = some rest) :
    headerStr http (appended headers sent address) "x-forwarded-for" =
      (http.toStr ⟨sent⟩).map (fun val => val ++ (", " ++ rest)) := by
  have hget : (appended headers sent address).get ⟨"x-forwarded-for"⟩ =
      some ⟨sent ++ ([44, 32] ++ address)⟩ := by
    simp [appended, MultiMap.get, MultiMap.insert]
  rw [headerStr, hget, Option.bind_some, hreads.append, hreads.append, hreads.comma, haddress,
    Option.map_eq_bind]
  rfl

theorem extractClientIp_appended {trustedProxies : List (IpAddr → Bool)}
    (hreads : ReadsBytes http) (htrusted : peerIsTrusted peer.ip trustedProxies = true)
    {rest : String} (haddress : http.toStr ⟨address⟩ = some rest) :
    extractClientIp http parseIp (appended headers sent address) (some peer) trustedProxies =
      some (chosen http parseIp headers peer sent) := by
  have hother : headerStr http (appended headers sent address) "x-real-ip" =
      headerStr http headers "x-real-ip" := by
    rw [headerStr, headerStr, MultiMap.get, appended, MultiMap.insert_other _ _ _ (by decide)]
    rfl
  have hforwarded : extractForwardedClientIp http parseIp (appended headers sent address) =
      ((http.toStr ⟨sent⟩).bind (fun val => parseIp (Text.trim (beforeComma val)))).or
        ((headerStr http headers "x-real-ip").bind parseIp) := by
    rw [extractForwardedClientIp, hother, headerStr_appended hreads haddress, Option.bind_map]
    simp only [Function.comp_def, headD_split_comma]
  rw [extractClientIp, Option.map_some]
  dsimp only
  rw [if_pos htrusted, hforwarded, chosen, Option.or_some]

/-- Two clients behind one address are told apart exactly if what they sent leads to
    different addresses. -/
theorem client_ip_fixed_iff (http : HttpCrate) (hreads : ReadsBytes http)
    (parseIp : String → Option IpAddr) (trustedProxies : List (IpAddr → Bool))
    (peer : SocketAddr) (htrusted : peerIsTrusted peer.ip trustedProxies = true)
    (headers : HeaderMap) (address : List UInt8)
    (haddress : (http.toStr ⟨address⟩).isSome = true) (sent₁ sent₂ : List UInt8) :
    extractClientIp http parseIp (appended headers sent₁ address) (some peer) trustedProxies =
        extractClientIp http parseIp (appended headers sent₂ address) (some peer) trustedProxies ↔
      chosen http parseIp headers peer sent₁ = chosen http parseIp headers peer sent₂ := by
  obtain ⟨rest, hrest⟩ := Option.isSome_iff_exists.mp haddress
  rw [extractClientIp_appended hreads htrusted hrest,
    extractClientIp_appended hreads htrusted hrest, Option.some.injEq]

def parseDigit (s : String) : Option IpAddr :=
  (Text.parseU64 s).bind (fun n => if n < 10 then some (.v4 (BitVec.ofNat 32 n)) else none)

/-- A client sends a text to a trusted proxy, which was called from `9`. -/
def digitIp (sent : List UInt8) : Option IpAddr :=
  extractClientIp .documented parseDigit (appended MultiMap.empty sent [57])
    (some ⟨.v4 0, 443⟩) [fun _ => true]

theorem client_ip_fixed_spaces : ReadsBytes .documented ∧
    peerIsTrusted (.v4 0) [fun _ => true] = true ∧
      digitIp [49] = digitIp [32, 49, 32, 44] := by
  have hreads : ReadsBytes .documented := by
    refine ⟨fun xs ys => ?_, by decide⟩
    simp only [HttpCrate.documented, List.all_append, List.map_append, String.ofList_append]
    cases xs.all isVisibleAscii <;> cases ys.all isVisibleAscii <;> rfl
  exact ⟨hreads, rfl, (client_ip_fixed_iff .documented hreads parseDigit [fun _ => true]
    ⟨.v4 0, 443⟩ rfl MultiMap.empty [57] rfl [49] [32, 49, 32, 44]).mpr (by decide +kernel)⟩

/-- With a burst of one, a client that names two addresses has two requests admitted
    at once. -/
theorem limiter_evaded :
    let asked := answers AdminRateLimiter.allow (fun l _ => l) (AdminRateLimiter.new 1 1)
    digitIp [49] = some (.v4 1) ∧ digitIp [50] = some (.v4 2) ∧
      asked [.call (digitIp [49]) 0, .call (digitIp [50]) 0] = [true, true] ∧
      asked [.call (digitIp [49]) 0, .call (digitIp [49]) 0] = [true, false] := by
  decide +kernel

end ClientIp

end WasmCloud
