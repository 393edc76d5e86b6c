import Ovpnlane.Construction.Socks

/-!
# The SOCKS dialogue

What a client of the proxy can say and what it is answered.  The grammar (`Greeting`, `Request`,
`Accepts`) and the parser of replies (`parseReply`) are written from RFC 1928 and know nothing of
the server; both use the address field the RFC shares between requests and replies.

* `greet_agrees`, `greet_refuses`, `readRequest_accepts`: the server takes exactly the bytes of
  a message of the grammar (completeness).
* `GreetRun`, `RequestRun`: the ways the two halves of the handshake can end (soundness).
* `socks_dialogue`: the whole of `handle`, for every stream in every fragmentation and every
  outcome of `Tunnel::connect`.
-/

namespace Ovpnlane

namespace Socks

open Dialogue Wire

/-! ## The grammar -/

/-- A byte of a host name. -/
def HostByte (b : UInt8) : Prop :=
  (Char.ofNat b.toNat).isAlphanum = true ∨ Char.ofNat b.toNat ∈ ['-', '.', '_']

instance (b : UInt8) : Decidable (HostByte b) := inferInstanceAs (Decidable (_ ∨ _))

/-- ASCII text. -/
def ascii (bytes : List UInt8) : String := String.ofList (bytes.map fun b => Char.ofNat b.toNat)

/-- The address field of a request: its form, then the address. -/
inductive AddressField : Target → List UInt8 → Prop
  | ipv4 (ip : Ipv4Addr) : AddressField (.ip (.v4 ip)) (1 :: ip.octets)
  | ipv6 (ip : Ipv6Addr) : AddressField (.ip (.v6 ip)) (4 :: ip.octets)
  | domain (name : List UInt8) (nonempty : 1 ≤ name.length) (short : name.length ≤ 255)
      (host : ∀ b ∈ name, HostByte b) :
      AddressField (.domain (ascii name)) (3 :: UInt8.ofNat name.length :: name)

/-- The client's offer of methods. -/
inductive Greeting (methods : List UInt8) : List UInt8 → Prop
  | intro (nonempty : 1 ≤ methods.length) (short : methods.length ≤ 255) :
      Greeting methods (5 :: UInt8.ofNat methods.length :: methods)

/-- A CONNECT request. -/
inductive Request (target : Target) (port : ℕ) : List UInt8 → Prop
  | intro (address : List UInt8) (high low : UInt8) (field : AddressField target address)
      (value : port = high.toNat * 256 + low.toNat) (positive : 0 < port) :
      Request target port ([5, 1, 0] ++ address ++ [high, low])

/-- A greeting that offers method 0, and a request. -/
inductive Accepts (target : Target) (port : ℕ) : List UInt8 → Prop
  | intro (methods greeting request : List UInt8) (offers : Greeting methods greeting)
      (noAuth : 0 ∈ methods) (asks : Request target port request) :
      Accepts target port (greeting ++ request)

/-- The address of a reply. -/
inductive Bound
  | ip (ip : IpAddr)
  | domain (name : List UInt8)
  deriving DecidableEq

/-- The address field of a reply, and what follows it. -/
def parseBound : List UInt8 → Option (Bound × List UInt8)
  | 1 :: bytes =>
    if h : (bytes.take 4).length = 4 then some (.ip (.v4 ⟨bytes.take 4, h⟩), bytes.drop 4) else none
  | 4 :: bytes =>
    if h : (bytes.take 16).length = 16 then some (.ip (.v6 ⟨bytes.take 16, h⟩), bytes.drop 16)
    else none
  | 3 :: length :: bytes =>
    if length.toNat ≤ bytes.length then
      some (.domain (bytes.take length.toNat), bytes.drop length.toNat)
    else none
  | _ => none

/-- A reply of RFC 1928: its code, its address and its port, and what follows it. -/
def parseReply : List UInt8 → Option ((UInt8 × Bound × ℕ) × List UInt8)
  | 5 :: code :: 0 :: bytes =>
    match parseBound bytes with
    | some (bound, high :: low :: rest) =>
      some ((code, bound, high.toNat * 256 + low.toNat), rest)
    | _ => none
  | _ => none

/-! ## Bytes and text -/

lemma isHostByte_iff (b : UInt8) : isHostByte b = true ↔ HostByte b := by
  have h : ∀ n : Fin 256, isHostByte (.ofNat n) = true ↔ HostByte (.ofNat n) := by decide +kernel
  simpa using h ⟨b.toNat, b.toNat_lt⟩

lemma HostByte.lt {b : UInt8} (h : HostByte b) : b.toNat < 128 := by
  have hall : ∀ n : Fin 256, HostByte (.ofNat n) → (n : ℕ) < 128 := by decide +kernel
  simpa using hall ⟨b.toNat, b.toNat_lt⟩ (by simpa using h)

lemma utf8EncodeChar_ascii {b : UInt8} (h : b.toNat < 128) :
    String.utf8EncodeChar (Char.ofNat b.toNat) = [b] := by
  have hall : ∀ n : Fin 128, String.utf8EncodeChar (Char.ofNat n) = [.ofNat n] := by decide
  simpa using hall ⟨b.toNat, h⟩

/-- A host name is valid UTF-8, so `String::from_utf8` never fails on one. -/
lemma fromUTF8_ascii {bytes : List UInt8} (h : ∀ b ∈ bytes, HostByte b) :
    String.fromUTF8? bytes.toByteArray = some (ascii bytes) := by
  have hchars : (bytes.map fun b => Char.ofNat b.toNat).flatMap String.utf8EncodeChar = bytes := by
    induction bytes with
    | nil => rfl
    | cons b bytes ih =>
      rw [List.map_cons, List.flatMap_cons, utf8EncodeChar_ascii (h b List.mem_cons_self).lt,
        ih fun b hb => h b (List.mem_cons_of_mem _ hb)]
      rfl
  have hencode : (bytes.map fun b => Char.ofNat b.toNat).utf8Encode = bytes.toByteArray := by
    rw [List.utf8Encode, hchars]
  have hvalid : bytes.toByteArray.IsValidUTF8 := ⟨_, hencode.symm⟩
  rw [String.fromUTF8?, dif_pos hvalid]
  simp only [String.fromUTF8, ascii, String.ofList, hencode]

/-! ## Replies -/

lemma parseBound_addressField (ip : IpAddr) (rest : List UInt8) :
    parseBound (addressField ip ++ rest) = some (.ip ip, rest) := by
  rcases ip with ⟨octets, hlength⟩ | ⟨octets, hlength⟩ <;>
    simp [addressField, parseBound, ← hlength]

/-- **The reply decodes** to its code and to the address it was made from. -/
theorem parseReply_response {code : UInt8} {bound : SocketAddr} (h : bound.port < 65536)
    (rest : List UInt8) :
    parseReply (response code (some bound) ++ rest) =
      some ((code, .ip bound.ip, bound.port), rest) := by
  simp only [response, Option.getD_some, List.cons_append, List.nil_append, List.append_assoc,
    parseReply, parseBound_addressField]
  have hport : bound.port / 256 % 256 * 256 + bound.port % 256 = bound.port := by omega
  simpa [toBeBytes] using hport

/-- The reply of a rejection, with no address. -/
lemma parseReply_none (code : UInt8) (rest : List UInt8) :
    parseReply (response code none ++ rest) = some ((code, .ip (.v4 .unspecified), 0), rest) :=
  parseReply_response (show (⟨.v4 .unspecified, 0⟩ : SocketAddr).port < 65536 by decide) rest

/-! ## Reading -/

section Reading

variable {w : Wire}

lemma readU8_append {b : UInt8} {rest : List UInt8} (h : w.room = none)
    (hunread : w.unread = b :: rest) :
    ∃ w', readU8 w = (.done b, w') ∧ w'.unread = rest ∧ w.Moves w' [b] [] := by
  obtain ⟨w', hread, hrest, hmoves⟩ :=
    @readExact_append _ _ unexpectedEof 1 [b] rest h hunread rfl
  refine ⟨w', ?_, hrest, hmoves⟩
  rw [readU8, bind_done hread]
  rfl

lemma readU16_append {high low : UInt8} {rest : List UInt8} (h : w.room = none)
    (hunread : w.unread = high :: low :: rest) :
    ∃ w', readU16 w = (.done (high.toNat * 256 + low.toNat), w') ∧ w'.unread = rest ∧
      w.Moves w' [high, low] [] := by
  obtain ⟨w', hread, hrest, hmoves⟩ :=
    @readExact_append _ _ unexpectedEof 2 [high, low] rest h hunread rfl
  refine ⟨w', ?_, hrest, hmoves⟩
  rw [readU16, bind_done hread]
  rfl

/-- One byte, or none left. -/
lemma readU8_spec (h : w.room = none) :
    (∃ b w', readU8 w = (.done b, w') ∧ w.Moves w' [b] []) ∨
      ∃ w', readU8 w = (w.starved unexpectedEof, w') ∧ w.Moves w' w.unread [] := by
  rcases readExact_spec unexpectedEof 1 h with ⟨⟨bytes, hlength⟩, w', hread, hmoves⟩ |
    ⟨-, w', hread, hmoves⟩
  · obtain ⟨b, rfl⟩ := List.length_eq_one_iff.mp hlength
    refine .inl ⟨b, w', ?_, hmoves⟩
    rw [readU8, bind_done hread]
    rfl
  · exact .inr ⟨w', bind_starved hread, hmoves⟩

/-- Two bytes, or fewer left. -/
lemma readU16_spec (h : w.room = none) :
    (∃ high low w', readU16 w = (.done (high.toNat * 256 + low.toNat), w') ∧
        w.Moves w' [high, low] []) ∨
      ∃ w', readU16 w = (w.starved unexpectedEof, w') ∧ w.Moves w' w.unread [] := by
  rcases readExact_spec unexpectedEof 2 h with ⟨⟨bytes, hlength⟩, w', hread, hmoves⟩ |
    ⟨-, w', hread, hmoves⟩
  · obtain ⟨high, low, rfl⟩ := List.length_eq_two.mp hlength
    refine .inl ⟨high, low, w', ?_, hmoves⟩
    rw [readU16, bind_done hread]
    rfl
  · exact .inr ⟨w', bind_starved hread, hmoves⟩

/-- A rejection: one reply, and the end. -/
lemma reject_spec {α : Type} (code : UInt8) (error : IoError) (h : w.room = none) :
    ∃ w', (reject code error : Dialogue IoError α) w = (.failed error, w') ∧
      w'.unread = w.unread ∧ w.Moves w' [] (response code none) := by
  obtain ⟨w', hwrite, hunread, hmoves⟩ := writeAll_open brokenPipe (response code none) h
  exact ⟨w', bind_done (f := fun _ => fail error) hwrite, hunread, hmoves⟩

end Reading

/-! ## The greeting -/

section Greeting

variable {w : Wire}

/-- The greeting is read to its end and no further. -/
lemma greet_eq {methods greeting rest : List UInt8} (h : w.room = none)
    (hoffers : Greeting methods greeting) (hunread : w.unread = greeting ++ rest) :
    ∃ w', w'.unread = rest ∧ w.Moves w' greeting [] ∧ greet w =
      (if !methods.contains 0 then do
        writeAll brokenPipe [5, 255]
        fail ⟨.permissionDenied, "SOCKS requires no-auth method"⟩
      else writeAll brokenPipe [5, 0] : Dialogue IoError Unit) w' := by
  obtain ⟨hnonempty, hshort⟩ := hoffers
  obtain ⟨w₁, hread₁, hrest₁, hmoves₁⟩ := readU8_append h hunread
  obtain ⟨w₂, hread₂, hrest₂, hmoves₂⟩ := readU8_append hmoves₁.room hrest₁
  have hcount : (UInt8.ofNat methods.length).toNat = methods.length := by
    rw [UInt8.toNat_ofNat']
    omega
  obtain ⟨w₃, hread₃, hrest₃, hmoves₃⟩ :=
    @readExact_append _ _ earlyEof _ methods rest hmoves₂.room hrest₂ hcount.symm
  refine ⟨w₃, hrest₃, (hmoves₁.trans hmoves₂).trans hmoves₃, ?_⟩
  have hne : UInt8.ofNat methods.length ≠ 0 := by
    intro hzero
    rw [hzero] at hcount
    simp at hcount
    omega
  rw [greet, bind_done hread₁, bind_done hread₂, if_neg (by simpa using hne), bind_done hread₃]

/-- A greeting that offers method 0 is agreed to. -/
lemma greet_agrees {methods greeting rest : List UInt8} (h : w.room = none)
    (hoffers : Greeting methods greeting) (hunread : w.unread = greeting ++ rest)
    (hauth : 0 ∈ methods) :
    ∃ w', greet w = (.done (), w') ∧ w'.unread = rest ∧ w.Moves w' greeting [5, 0] := by
  obtain ⟨w₁, hrest, hmoves, heq⟩ := greet_eq h hoffers hunread
  obtain ⟨w₂, hwrite, hunread₂, hmoves₂⟩ := writeAll_open brokenPipe [5, 0] hmoves.room
  refine ⟨w₂, ?_, hunread₂.trans hrest, by simpa using hmoves.trans hmoves₂⟩
  rw [heq, if_neg (by simpa using hauth), hwrite]

/-- Any other greeting is refused. -/
lemma greet_refuses {methods greeting rest : List UInt8} (h : w.room = none)
    (hoffers : Greeting methods greeting) (hunread : w.unread = greeting ++ rest)
    (hauth : 0 ∉ methods) :
    ∃ error w', greet w = (.failed error, w') ∧ w.Moves w' greeting [5, 255] := by
  obtain ⟨w₁, -, hmoves, heq⟩ := greet_eq h hoffers hunread
  obtain ⟨w₂, hwrite, -, hmoves₂⟩ := writeAll_open brokenPipe [5, 255] hmoves.room
  have hmoves := hmoves.trans hmoves₂
  rw [List.append_nil] at hmoves
  rw [heq, if_pos (by simpa using hauth), bind_done hwrite]
  exact ⟨_, w₂, rfl, hmoves⟩

/-- The ways the greeting can end. -/
inductive GreetRun (w : Wire) : Outcome IoError Unit × Wire → Prop
  | silent (o : Outcome IoError Unit) (w' : Wire) (read : List UInt8) (stops : ∀ a, o ≠ .done a)
      (moves : w.Moves w' read []) : GreetRun w (o, w')
  | refused (error : IoError) (w' : Wire) (methods greeting : List UInt8)
      (offers : Greeting methods greeting) (auth : 0 ∉ methods)
      (moves : w.Moves w' greeting [5, 255]) : GreetRun w (.failed error, w')
  | agreed (w' : Wire) (methods greeting : List UInt8) (offers : Greeting methods greeting)
      (auth : 0 ∈ methods) (moves : w.Moves w' greeting [5, 0]) : GreetRun w (.done (), w')

lemma greet_run (h : w.room = none) : GreetRun w (greet w) := by
  unfold greet
  rcases readU8_spec h with ⟨version, w₁, hread₁, hmoves₁⟩ | ⟨w₁, hread₁, hmoves₁⟩
  swap
  · rw [bind_starved hread₁]
    exact .silent _ _ _ (starved_ne_done _ _) hmoves₁
  rw [bind_done hread₁]
  rcases readU8_spec hmoves₁.room with ⟨count, w₂, hread₂, hmoves₂⟩ | ⟨w₂, hread₂, hmoves₂⟩
  swap
  · rw [bind_starved hread₂]
    exact .silent _ _ _ (starved_ne_done _ _) (hmoves₁.trans hmoves₂)
  rw [bind_done hread₂]
  have hmoves := hmoves₁.trans hmoves₂
  split_ifs with hgreeting
  · exact .silent _ _ _ (by simp) hmoves
  obtain ⟨rfl, hcount⟩ : version = 5 ∧ count ≠ 0 := by simpa using hgreeting
  rcases readExact_spec earlyEof count.toNat hmoves₂.room with
    ⟨⟨methods, hlength⟩, w₃, hread₃, hmoves₃⟩ | ⟨-, w₃, hread₃, hmoves₃⟩
  swap
  · rw [bind_starved hread₃]
    exact .silent _ _ _ (starved_ne_done _ _) (hmoves.trans hmoves₃)
  rw [bind_done hread₃]
  have hoffers : Greeting methods ([5] ++ [count] ++ methods) := by
    have hlt := count.toNat_lt
    have hpos : count.toNat ≠ 0 := fun hzero => hcount (UInt8.toNat_inj.mp (by simpa using hzero))
    have hofNat : UInt8.ofNat methods.length = count := by rw [hlength, UInt8.ofNat_toNat]
    have hintro := @Greeting.intro methods (by omega) (by omega)
    rwa [hofNat] at hintro
  have hread := hmoves.trans hmoves₃
  split_ifs with hauth
  · obtain ⟨w₄, hwrite, -, hmoves₄⟩ := writeAll_open brokenPipe [5, 255] hmoves₃.room
    rw [bind_done hwrite]
    exact .refused _ _ _ _ hoffers (by simpa using hauth) (by simpa using hread.trans hmoves₄)
  · obtain ⟨w₄, hwrite, -, hmoves₄⟩ := writeAll_open brokenPipe [5, 0] hmoves₃.room
    rw [hwrite]
    exact .agreed _ _ _ hoffers (by simpa using hauth) (by simpa using hread.trans hmoves₄)

end Greeting

/-! ## The request -/

section Request

variable {w : Wire}

/-- The address field is read to its end and no further. -/
lemma readTarget_accepts {target : Target} {kind : UInt8} {address rest : List UInt8}
    (h : w.room = none) (hfield : AddressField target (kind :: address))
    (hunread : w.unread = address ++ rest) :
    ∃ w', readTarget kind w = (.done target, w') ∧ w'.unread = rest ∧ w.Moves w' address [] := by
  unfold readTarget
  cases hfield with
  | ipv4 ip =>
    obtain ⟨w₁, hread, hrest, hmoves⟩ :=
      @readExact_append _ _ earlyEof 4 ip.octets rest h hunread ip.length_octets
    refine ⟨w₁, ?_, hrest, hmoves⟩
    rw [if_pos rfl, bind_done hread]
    rfl
  | ipv6 ip =>
    obtain ⟨w₁, hread, hrest, hmoves⟩ :=
      @readExact_append _ _ earlyEof 16 ip.octets rest h hunread ip.length_octets
    refine ⟨w₁, ?_, hrest, hmoves⟩
    rw [if_neg (by decide), if_pos rfl, bind_done hread]
    rfl
  | domain name hnonempty hshort hhost =>
    obtain ⟨w₁, hread₁, hrest₁, hmoves₁⟩ := readU8_append h hunread
    have hcount : (UInt8.ofNat name.length).toNat = name.length := by
      rw [UInt8.toNat_ofNat']
      omega
    obtain ⟨w₂, hread₂, hrest₂, hmoves₂⟩ :=
      @readExact_append _ _ earlyEof _ name rest hmoves₁.room hrest₁ hcount.symm
    refine ⟨w₂, ?_, hrest₂, hmoves₁.trans hmoves₂⟩
    have hvalid : ¬(name.isEmpty || !name.all isHostByte) = true := by
      have hall : name.all isHostByte = true :=
        List.all_eq_true.mpr fun b hb => (isHostByte_iff b).mpr (hhost b hb)
      have hne : name ≠ [] := List.ne_nil_of_length_pos hnonempty
      simp [hall, hne]
    rw [if_neg (by decide), if_neg (by decide), if_pos rfl, bind_done hread₁, bind_done hread₂,
      if_neg hvalid, fromUTF8_ascii hhost]
    rfl

/-- A request of the grammar is accepted, with the target and the port it encodes. -/
lemma readRequest_accepts {target : Target} {port : ℕ} {request rest : List UInt8}
    (h : w.room = none) (hasks : Request target port request)
    (hunread : w.unread = request ++ rest) :
    ∃ w', readRequest w = (.done (target, port), w') ∧ w'.unread = rest ∧
      w.Moves w' request [] := by
  obtain ⟨address, high, low, hfield, rfl, hpositive⟩ := hasks
  obtain ⟨kind, field, rfl⟩ : ∃ kind field, address = kind :: field := by
    cases hfield <;> exact ⟨_, _, rfl⟩
  rw [show [5, 1, 0] ++ kind :: field ++ [high, low] ++ rest =
    [5, 1, 0, kind] ++ (field ++ high :: low :: rest) by simp] at hunread
  obtain ⟨w₁, hread₁, hrest₁, hmoves₁⟩ :=
    @readExact_append _ _ earlyEof 4 [5, 1, 0, kind] _ h hunread rfl
  obtain ⟨w₂, hread₂, hrest₂, hmoves₂⟩ := readTarget_accepts hmoves₁.room hfield hrest₁
  obtain ⟨w₃, hread₃, hrest₃, hmoves₃⟩ := readU16_append hmoves₂.room hrest₂
  refine ⟨w₃, ?_, hrest₃, by simpa using (hmoves₁.trans hmoves₂).trans hmoves₃⟩
  rw [readRequest, bind_done hread₁, if_neg (by simp), if_neg (by simp)]
  show (readTarget kind >>= _) w₁ = _
  rw [bind_done hread₂, bind_done hread₃, if_neg hpositive.ne']
  rfl

/-- The ways reading from the request on can end. -/
inductive RequestRun {α : Type} (w : Wire) (Accepted : α → List UInt8 → Prop) :
    Outcome IoError α × Wire → Prop
  | silent (o : Outcome IoError α) (w' : Wire) (read : List UInt8) (stops : ∀ a, o ≠ .done a)
      (moves : w.Moves w' read []) : RequestRun w Accepted (o, w')
  | rejected (code : UInt8) (error : IoError) (w' : Wire) (read : List UInt8) (nonzero : code ≠ 0)
      (moves : w.Moves w' read (response code none)) : RequestRun w Accepted (.failed error, w')
  | accepted (a : α) (w' : Wire) (read : List UInt8) (accepts : Accepted a read)
      (moves : w.Moves w' read []) : RequestRun w Accepted (.done a, w')

lemma RequestRun.reject {α : Type} {Accepted : α → List UInt8 → Prop} {w₀ : Wire}
    {read : List UInt8} {code : UInt8} {error : IoError} (hmoves : w₀.Moves w read [])
    (hcode : code ≠ 0) : RequestRun w₀ Accepted (Socks.reject code error w) := by
  obtain ⟨w', hreject, -, hmoves'⟩ := @reject_spec w α code error hmoves.room
  rw [hreject]
  exact .rejected code _ _ _ hcode (hmoves.trans hmoves')

lemma readTarget_run (kind : UInt8) (h : w.room = none) :
    RequestRun w (fun target field => AddressField target (kind :: field))
      (readTarget kind w) := by
  unfold readTarget
  split_ifs with hipv4 hipv6 hdomain
  · subst hipv4
    rcases readExact_spec earlyEof 4 h with ⟨octets, w₁, hread, hmoves⟩ | ⟨-, w₁, hread, hmoves⟩
    · rw [bind_done hread]
      exact .accepted _ _ _ (.ipv4 ⟨octets.1, octets.2⟩) hmoves
    · rw [bind_starved hread]
      exact .silent _ _ _ (starved_ne_done _ _) hmoves
  · subst hipv6
    rcases readExact_spec earlyEof 16 h with ⟨octets, w₁, hread, hmoves⟩ | ⟨-, w₁, hread, hmoves⟩
    · rw [bind_done hread]
      exact .accepted _ _ _ (.ipv6 ⟨octets.1, octets.2⟩) hmoves
    · rw [bind_starved hread]
      exact .silent _ _ _ (starved_ne_done _ _) hmoves
  · subst hdomain
    rcases readU8_spec h with ⟨length, w₁, hread₁, hmoves₁⟩ | ⟨w₁, hread₁, hmoves₁⟩
    swap
    · rw [bind_starved hread₁]
      exact .silent _ _ _ (starved_ne_done _ _) hmoves₁
    rw [bind_done hread₁]
    rcases readExact_spec earlyEof length.toNat hmoves₁.room with
      ⟨⟨name, hlength⟩, w₂, hread₂, hmoves₂⟩ | ⟨-, w₂, hread₂, hmoves₂⟩
    swap
    · rw [bind_starved hread₂]
      exact .silent _ _ _ (starved_ne_done _ _) (hmoves₁.trans hmoves₂)
    rw [bind_done hread₂]
    have hmoves := hmoves₁.trans hmoves₂
    split_ifs with hname
    · exact .reject hmoves (by decide)
    · obtain ⟨hne, hhost⟩ : name ≠ [] ∧ ∀ b ∈ name, isHostByte b = true := by simpa using hname
      have hbytes : ∀ b ∈ name, HostByte b := fun b hb => (isHostByte_iff b).mp (hhost b hb)
      have hlt := length.toNat_lt
      have hofNat : UInt8.ofNat name.length = length := by rw [hlength, UInt8.ofNat_toNat]
      have hfield := AddressField.domain name (List.length_pos_iff.mpr hne) (by omega) hbytes
      rw [hofNat] at hfield
      rw [fromUTF8_ascii hbytes]
      exact .accepted _ _ _ hfield hmoves
  · exact .reject (.refl h) (by decide)

lemma readRequest_run (h : w.room = none) :
    RequestRun w (fun asked request => Request asked.1 asked.2 request) (readRequest w) := by
  unfold readRequest
  rcases readExact_spec earlyEof 4 h with
    ⟨⟨request, hlength⟩, w₁, hread₁, hmoves₁⟩ | ⟨-, w₁, hread₁, hmoves₁⟩
  swap
  · rw [bind_starved hread₁]
    exact .silent _ _ _ (starved_ne_done _ _) hmoves₁
  rw [bind_done hread₁]
  match request, hlength with
  | [version, command, reserved, kind], _ =>
    split_ifs with hversion hcommand
    · exact .reject hmoves₁ (by decide)
    · exact .reject hmoves₁ (by decide)
    obtain ⟨rfl, rfl⟩ : version = 5 ∧ reserved = 0 := by simpa using hversion
    obtain rfl : command = 1 := by simpa using hcommand
    show RequestRun w _ ((readTarget kind >>= _) w₁)
    generalize hresult : readTarget kind w₁ = result
    have hrun := readTarget_run kind hmoves₁.room
    rw [hresult] at hrun
    cases hrun with
    | silent o w₂ read hstops hmoves₂ =>
      obtain ⟨o', hbind, hstops'⟩ := bind_stopped hresult hstops
      rw [hbind]
      exact .silent _ _ _ hstops' (hmoves₁.trans hmoves₂)
    | rejected code error w₂ read hcode hmoves₂ =>
      rw [bind_failed hresult]
      exact .rejected _ _ _ _ hcode (hmoves₁.trans hmoves₂)
    | accepted target w₂ field hfield hmoves₂ =>
      rw [bind_done hresult]
      have hmoves := hmoves₁.trans hmoves₂
      rcases readU16_spec hmoves₂.room with ⟨high, low, w₃, hread₃, hmoves₃⟩ | ⟨w₃, hread₃, hmoves₃⟩
      swap
      · rw [bind_starved hread₃]
        exact .silent _ _ _ (starved_ne_done _ _) (hmoves.trans hmoves₃)
      rw [bind_done hread₃]
      split_ifs with hport
      · exact .reject (hmoves.trans hmoves₃) (by decide)
      · have hrequest := Request.intro (kind :: field) high low hfield rfl
          (Nat.pos_of_ne_zero hport)
        exact .accepted _ _ _ (by simpa using hrequest) (by simpa using hmoves.trans hmoves₃)

end Request

/-! ## The handshake -/

section Handshake

variable {w : Wire} {target : Target} {port : ℕ}

/-- Completeness: what the grammar accepts, the handshake returns, and it reads nothing else. -/
lemma handshake_accepts {read rest : List UInt8} (h : w.room = none)
    (haccepts : Accepts target port read) (hunread : w.unread = read ++ rest) :
    ∃ w', handshake w = (.done (target, port), w') ∧ w'.unread = rest ∧
      w.Moves w' read [5, 0] := by
  obtain ⟨methods, greeting, request, hoffers, hauth, hasks⟩ := haccepts
  rw [List.append_assoc] at hunread
  obtain ⟨w₁, hgreet, hrest₁, hmoves₁⟩ := greet_agrees h hoffers hunread hauth
  obtain ⟨w₂, hread, hrest₂, hmoves₂⟩ := readRequest_accepts hmoves₁.room hasks hrest₁
  exact ⟨w₂, (bind_done hgreet).trans hread, hrest₂, hmoves₁.trans hmoves₂⟩

/-- The ways the handshake can end. -/
inductive HandshakeRun (w : Wire) : Outcome IoError (Target × ℕ) × Wire → Prop
  | silent (o : Outcome IoError (Target × ℕ)) (w' : Wire) (read : List UInt8)
      (stops : ∀ a, o ≠ .done a) (moves : w.Moves w' read []) : HandshakeRun w (o, w')
  | refused (error : IoError) (w' : Wire) (methods greeting : List UInt8)
      (offers : Greeting methods greeting) (auth : 0 ∉ methods)
      (moves : w.Moves w' greeting [5, 255]) : HandshakeRun w (.failed error, w')
  | agreed (methods greeting : List UInt8) (offers : Greeting methods greeting)
      (auth : 0 ∈ methods) (w₁ : Wire) (moves : w.Moves w₁ greeting [5, 0])
      (run : RequestRun w₁ (fun asked request => Request asked.1 asked.2 request)
        (readRequest w₁)) : HandshakeRun w (readRequest w₁)

lemma handshake_run (h : w.room = none) : HandshakeRun w (handshake w) := by
  unfold handshake
  generalize hresult : greet w = result
  have hrun := greet_run h
  rw [hresult] at hrun
  cases hrun with
  | silent o w₁ read hstops hmoves =>
    obtain ⟨o', hbind, hstops'⟩ := bind_stopped hresult hstops
    rw [hbind]
    exact .silent _ _ _ hstops' hmoves
  | refused error w₁ methods greeting hoffers hauth hmoves =>
    rw [bind_failed hresult]
    exact .refused _ _ _ _ hoffers hauth hmoves
  | agreed w₁ methods greeting hoffers hauth hmoves =>
    rw [bind_done hresult]
    exact .agreed _ _ hoffers hauth w₁ hmoves (readRequest_run hmoves.room)

/-- Soundness: what the handshake returns, the grammar accepts. -/
lemma handshake_sound {w' : Wire} (h : w.room = none)
    (hresult : handshake w = (.done (target, port), w')) :
    ∃ read, Accepts target port read ∧ w.Moves w' read [5, 0] := by
  have hrun := handshake_run h
  generalize handshake w = result at hrun hresult
  cases hrun with
  | silent o _ _ hstops =>
    exact absurd (Prod.mk.inj hresult).1 (hstops _)
  | refused => simp at hresult
  | agreed methods greeting hoffers hauth w₁ hmoves hrun =>
    generalize readRequest w₁ = result at hrun hresult
    cases hrun with
    | silent o _ _ hstops => exact absurd (Prod.mk.inj hresult).1 (hstops _)
    | rejected => simp at hresult
    | accepted asked _ request hasks hmoves' =>
      obtain ⟨hasked, rfl⟩ := Prod.mk.inj hresult
      obtain rfl := Outcome.done.inj hasked
      exact ⟨_, .intro _ _ _ hoffers hauth hasks, hmoves.trans hmoves'⟩

end Handshake

/-! ## The whole dialogue -/

/-- What the server does with a client that sends `input`, on the wire `w`: what its handshake
returns, what it writes, and where it begins to forward. -/
structure Speaks {Stream : Type} (connect : Target → ℕ → Except IoError (Connected Stream))
    (input : List UInt8) (w : Wire) : Prop where
  /-- The handshake returns exactly on the grammar, and reads no byte more. -/
  returns : ∀ target port rest,
    (∃ w', handshake w = (.done (target, port), w') ∧ w'.unread = rest) ↔
      ∃ read, Accepts target port read ∧ input = read ++ rest
  /-- Without a complete, well-formed greeting nothing is written. -/
  silent : (∀ methods greeting rest, Greeting methods greeting → input ≠ greeting ++ rest) →
    ∃ error w', handle connect w = (.failed error, w') ∧ w'.written = []
  refused : ∀ methods greeting rest, Greeting methods greeting → input = greeting ++ rest →
    0 ∉ methods → ∃ error w', handle connect w = (.failed error, w') ∧ w'.written = [5, 255]
  /-- Without a complete, well-formed request there is at most one reply, and it is a failure. -/
  rejected : ∀ methods greeting rest, Greeting methods greeting → input = greeting ++ rest →
    0 ∈ methods → (∀ target port request rest', Request target port request →
      rest ≠ request ++ rest') →
    ∃ error w' answer, handle connect w = (.failed error, w') ∧ w'.written = [5, 0] ++ answer ∧
      (answer = [] ∨ ∃ code, code ≠ 0 ∧
        parseReply answer = some ((code, .ip (.v4 .unspecified), 0), []))
  /-- A valid request whose connection fails is answered with a failure. -/
  failed : ∀ target port read rest error, Accepts target port read → input = read ++ rest →
    connect target port = .error error →
    ∃ w' answer code, handle connect w = (.failed error, w') ∧ w'.written = [5, 0] ++ answer ∧
      code ≠ 0 ∧ parseReply answer = some ((code, .ip (.v4 .unspecified), 0), [])
  /-- A valid request whose connection succeeds is answered with its local address, and every
  later byte is left for forwarding. -/
  connected : ∀ target port read rest connection, Accepts target port read →
    input = read ++ rest → connect target port = .ok connection →
    connection.localAddr.port < 65536 →
    ∃ w' answer, handle connect w = (.done connection, w') ∧ w'.unread = rest ∧
      w'.written = [5, 0] ++ answer ∧ parseReply answer =
        some ((0, .ip connection.localAddr.ip, connection.localAddr.port), [])

lemma replyCode_ne_zero (kind : ErrorKind) : replyCode kind ≠ 0 := by
  cases kind <;> decide

section Handle

variable {Stream : Type} (connect : Target → ℕ → Except IoError (Connected Stream))
  {w : Wire} {o : Outcome IoError (Target × ℕ)} {w' : Wire}

lemma handle_stopped (h : handshake w = (o, w')) (hstops : ∀ a, o ≠ .done a) :
    ∃ error, handle connect w = (.failed error, w') := by
  obtain ⟨error, htimeout⟩ := timeout_stopped h hstops
  exact ⟨error, bind_failed htimeout⟩

end Handle

/-- **The SOCKS server speaks its grammar**, to every client that takes its answers, in every
fragmentation, whether or not the client closes its half, and whatever `Tunnel::connect` does. -/
theorem socks_dialogue {Stream : Type}
    (connect : Target → ℕ → Except IoError (Connected Stream)) (fragments : List (List UInt8))
    (closed : Bool) : Speaks connect fragments.flatten (Wire.connect fragments closed) := by
  have hopen : (Wire.connect fragments closed).room = none := rfl
  have hunread : (Wire.connect fragments closed).unread = fragments.flatten := rfl
  have hwritten : (Wire.connect fragments closed).written = [] := rfl
  generalize Wire.connect fragments closed = w at hopen hunread hwritten
  rw [← hunread]
  constructor
  case returns =>
    intro target port rest
    constructor
    · rintro ⟨w', hresult, rfl⟩
      obtain ⟨read, haccepts, hmoves⟩ := handshake_sound hopen hresult
      exact ⟨read, haccepts, hmoves.unread⟩
    · rintro ⟨read, haccepts, hinput⟩
      obtain ⟨w', hresult, hrest, -⟩ := handshake_accepts hopen haccepts hinput
      exact ⟨w', hresult, hrest⟩
  case silent =>
    intro hnone
    have hrun := handshake_run hopen
    generalize hresult : handshake w = result at hrun
    cases hrun with
    | silent o w' read hstops hmoves =>
      obtain ⟨error, hhandle⟩ := handle_stopped connect hresult hstops
      exact ⟨error, w', hhandle, by rw [hmoves.written, hwritten]; rfl⟩
    | refused _ _ _ _ hoffers _ hmoves => exact absurd hmoves.unread (hnone _ _ _ hoffers)
    | agreed _ _ hoffers _ _ hmoves => exact absurd hmoves.unread (hnone _ _ _ hoffers)
  case refused =>
    intro methods greeting rest hoffers hinput hauth
    obtain ⟨error, w', hgreet, hmoves⟩ := greet_refuses hopen hoffers hinput hauth
    obtain ⟨error', hhandle⟩ := handle_stopped connect
      (show handshake w = (.failed error, w') from bind_failed hgreet) (by simp)
    exact ⟨error', w', hhandle, by rw [hmoves.written, hwritten]; rfl⟩
  case rejected =>
    intro methods greeting rest hoffers hinput hauth hnone
    obtain ⟨w₁, hgreet, hrest, hmoves⟩ := greet_agrees hopen hoffers hinput hauth
    have hrun := readRequest_run hmoves.room
    generalize hresult : readRequest w₁ = result at hrun
    have hhandshake : handshake w = result := (bind_done hgreet).trans hresult
    cases hrun with
    | silent o w₂ read hstops hmoves₂ =>
      obtain ⟨error, hhandle⟩ := handle_stopped connect hhandshake hstops
      exact ⟨error, w₂, [], hhandle,
        by rw [(hmoves.trans hmoves₂).written, hwritten]; rfl, .inl rfl⟩
    | rejected code error w₂ read hcode hmoves₂ =>
      obtain ⟨error, hhandle⟩ := handle_stopped connect hhandshake (by simp)
      refine ⟨error, w₂, response code none, hhandle, ?_, .inr ⟨code, hcode, ?_⟩⟩
      · rw [(hmoves.trans hmoves₂).written, hwritten]
        rfl
      · simpa using parseReply_none code []
    | accepted asked w₂ request hasks hmoves₂ =>
      exact absurd (hrest.symm.trans hmoves₂.unread) (hnone _ _ _ _ hasks)
  case failed =>
    intro target port read rest error haccepts hinput hconnect
    obtain ⟨w₁, hresult, -, hmoves⟩ := handshake_accepts hopen haccepts hinput
    obtain ⟨w₂, hreject, -, hmoves₂⟩ :=
      @reject_spec w₁ (Connected Stream) (replyCode error.kind) error hmoves.room
    refine ⟨w₂, response (replyCode error.kind) none, replyCode error.kind, ?_, ?_,
      replyCode_ne_zero _, by simpa using parseReply_none (replyCode error.kind) []⟩
    · rw [handle, bind_done (timeout_done hresult)]
      simp only [hconnect]
      exact hreject
    · rw [(hmoves.trans hmoves₂).written, hwritten]
      rfl
  case connected =>
    intro target port read rest connection haccepts hinput hconnect hport
    obtain ⟨w₁, hresult, hrest, hmoves⟩ := handshake_accepts hopen haccepts hinput
    obtain ⟨w₂, hwrite, hunread₂, hmoves₂⟩ :=
      writeAll_open brokenPipe (response 0 (some connection.localAddr)) hmoves.room
    refine ⟨w₂, response 0 (some connection.localAddr), ?_, hunread₂.trans hrest, ?_,
      by simpa using parseReply_response hport []⟩
    · rw [handle, bind_done (timeout_done hresult)]
      simp only [hconnect]
      exact bind_done hwrite
    · rw [(hmoves.trans hmoves₂).written, hwritten]
      rfl

example : (handle (fun _ _ => (.error closedError : Except IoError (Connected Unit)))
    (.connect [[5, 1], [0, 5, 1, 0, 1, 127], [0, 0, 1, 0, 22]] false)).2.written =
      [5, 0, 5, 3, 0, 1, 0, 0, 0, 0, 0, 0] := by decide

end Socks

end Ovpnlane
