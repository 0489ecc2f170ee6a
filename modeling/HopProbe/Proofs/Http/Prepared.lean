import HopProbe.Http.Client
import HopProbe.Proofs.Text.Order
import Mathlib.Data.List.Perm.Subperm
import Mathlib.Data.List.TakeDrop
import Mathlib.Tactic.SplitIfs

/-!
# What is sent of a request

The fields of a line stand in place of the defaults, and those that say how a
body arrives are settled when the request is made. The body is sent to its end
unless the fields claim fewer bytes than it has.
-/

set_option autoImplicit false

namespace HopProbe.Http
open HopProbe.Text

theorem Fields.values_append (fields more : Fields) (name : String) :
    Fields.values (fields ++ more) name = fields.values name ++ more.values name := by
  simp [Fields.values]

theorem isFull_eq_false_iff (names : List String) :
    isFull names = false ↔ names.eraseDups.length < maxNames := by
  have fewer : names.eraseDups.length ≤ names.length :=
    (List.subperm_of_subset (nodup_eraseDups names) fun _ => List.mem_eraseDups.mp).length_le
  simp only [isFull, Bool.and_eq_false_iff, decide_eq_false_iff_not]
  omega

theorem isFull_of_subset {names more : List String} (h : names ⊆ more) (room : isFull more = false) :
    isFull names = false := by
  rw [isFull_eq_false_iff] at room ⊢
  have among : names.eraseDups ⊆ more.eraseDups := fun name inside =>
    List.mem_eraseDups.mpr (h (List.mem_eraseDups.mp inside))
  exact (List.subperm_of_subset (nodup_eraseDups names) among).length_le.trans_lt room

theorem isFull_of_length_lt {names : List String} (h : names.length < maxNames) :
    isFull names = false := by
  simp [isFull, Nat.not_le.mpr h]

theorem Fields.values_filter (fields : Fields) (keep : String → Bool) (name : String) :
    Fields.values (fields.filter fun f => keep f.name) name =
      if keep name then fields.values name else [] := by
  induction fields with
  | nil => simp [Fields.values]
  | cons f rest ih =>
    by_cases hn : f.name = name
    · subst hn
      by_cases hk : keep f.name <;> simp_all [Fields.values]
    · by_cases hk : keep f.name <;> simp_all [Fields.values]

theorem Fields.values_eq_nil_iff (fields : Fields) (name : String) :
    fields.values name = [] ↔ name ∉ fields.names := by
  simp [Fields.names, Fields.values, List.filter_eq_nil_iff]

/-- The fields that are given for a name stand in place of all defaults of that name. -/
theorem Fields.values_replacing_eq (given defaults : Fields) (name : String) :
    (given.replacing defaults).values name =
      if name ∈ given.names then given.values name else defaults.values name := by
  have left := Fields.values_filter defaults (fun n => !given.names.contains n) name
  rw [Fields.replacing, Fields.values_append, left]
  by_cases named : name ∈ given.names
  · simp [named]
  · simp [named, (Fields.values_eq_nil_iff given name).mpr named]

theorem Fields.values_replacing (given : Fields) {defaults : Fields} {name : String}
    (h : defaults.values name = []) : (given.replacing defaults).values name = given.values name := by
  rw [Fields.values_replacing_eq, h]
  split_ifs with named
  · rfl
  · exact ((Fields.values_eq_nil_iff given name).mpr named).symm

theorem values_framed (body : List UInt8) (fields : Fields) {name : String}
    (h : name ≠ "transfer-encoding") : (framed body fields).values name = fields.values name := by
  have others := Fields.values_filter fields (· != "transfer-encoding") name
  have kept : (name != "transfer-encoding") = true := by simpa using h
  rw [if_pos kept] at others
  unfold framed
  split
  · rfl
  · rename_i last earlier found
    have named : ∀ f ∈ last :: earlier, f.name = "transfer-encoding" := by
      intro f hf
      rw [← found, List.mem_reverse, List.mem_filter] at hf
      simpa using hf.2
    have apart : ∀ f ∈ last :: earlier, (f.name == name) = false := by
      intro f hf
      rw [named f hf]
      simpa using Ne.symm h
    split
    · exact others
    · have none : Fields.values earlier.reverse name = [] := by
        simp only [Fields.values, List.map_eq_nil_iff, List.filter_eq_nil_iff]
        intro f hf
        simp [apart f (List.mem_cons_of_mem _ (List.mem_reverse.mp hf))]
      have noneLast (value : String) : Fields.values [⟨last.name, value⟩] name = [] := by
        simp [Fields.values, apart last (by simp)]
      rw [Fields.values_append, Fields.values_append, others, none, noneLast]
      simp

theorem framed_of_not_mem (body : List UInt8) {fields : Fields}
    (h : "transfer-encoding" ∉ fields.names) : framed body fields = fields := by
  have none : (fields.filter fun f => f.name == "transfer-encoding") = [] := by
    rw [← List.map_eq_nil_iff (f := Field.value)]
    exact (Fields.values_eq_nil_iff fields "transfer-encoding").mpr h
  simp [framed, none]

theorem mem_names_framed {body : List UInt8} (fields : Fields) (h : body ≠ []) :
    "transfer-encoding" ∈ (framed body fields).names ↔ "transfer-encoding" ∈ fields.names := by
  unfold framed
  split
  · rfl
  · rename_i last earlier found
    have filled : body.isEmpty = false := by simpa using h
    have there : last ∈ fields.filter fun f => f.name == "transfer-encoding" := by
      rw [← List.mem_reverse, found]
      simp
    obtain ⟨given, named⟩ := List.mem_filter.mp there
    have inside : ∃ f ∈ fields, f.name = "transfer-encoding" := ⟨last, given, by simpa using named⟩
    have again : last.name = "transfer-encoding" := by simpa using named
    simp [filled, Fields.names, inside, again]

/-- A request that can be made has the method, the fields and what is sent of the body;
a user whom the address names is put in front of the defaults. -/
theorem prepare_ok {method : Method} {url : Url} {fields defaults : Fields} {body : List UInt8}
    {sent : Request} (h : prepare method url fields defaults body = .ok sent) :
    ∃ login : Fields, (login = [] ∨ ∃ user password, login = [basicField user password]) ∧
      sent.method = method ∧ sent.fields = framed body (fields.replacing (login ++ defaults)) ∧
      sent.body = sentBody sent.fields body := by
  simp only [prepare] at h
  cases hc : credentials? url with
  | none =>
    rw [hc] at h
    split_ifs at h
    cases h
    exact ⟨[], Or.inl rfl, rfl, rfl, rfl⟩
  | some login =>
    obtain ⟨user, password⟩ := login
    rw [hc] at h
    split_ifs at h
    cases h
    exact ⟨[basicField user password], Or.inr ⟨user, password, rfl⟩, rfl, rfl, rfl⟩

/-- A request is made to the address that was meant, but for a user whom the address names. -/
def Request.SentTo (r : Request) (url : Url) : Prop :=
  r.url.withoutCredentials = url.withoutCredentials

theorem sentTo_prepared {method : Method} {url : Url} {fields defaults : Fields}
    {body : List UInt8} {sent : Request} (h : prepare method url fields defaults body = .ok sent) :
    sent.SentTo url := by
  simp only [prepare] at h
  cases hc : credentials? url with
  | none =>
    rw [hc] at h
    split_ifs at h
    cases h
    rfl
  | some login =>
    rw [hc] at h
    split_ifs at h
    cases h
    rfl

def login (url : Url) : Fields :=
  match credentials? url with
  | some (user, password) => [basicField user password]
  | none => []

def sentAddress (url : Url) : Url :=
  if (credentials? url).isSome then url.withoutCredentials else url

structure Reachable (url : Url) : Prop where
  host : url.hasHost = true
  sendable : isSendable (sentAddress url) = true

theorem prepare_of_reachable {url : Url} (h : Reachable url) (method : Method)
    (fields defaults : Fields) (body : List UInt8) :
    ∃ sent, prepare method url fields defaults body = .ok sent ∧ sent.SentTo url ∧
      sent.fields = framed body (fields.replacing (login url ++ defaults)) := by
  have made : ∃ sent, prepare method url fields defaults body = .ok sent ∧
      sent.fields = framed body (fields.replacing (login url ++ defaults)) := by
    have sendable := h.sendable
    simp only [prepare, h.host, if_true, login, sentAddress] at sendable ⊢
    cases known : credentials? url with
    | none =>
      rw [known] at sendable
      exact ⟨_, if_pos sendable, rfl⟩
    | some found =>
      rw [known] at sendable
      exact ⟨_, if_pos sendable, rfl⟩
  obtain ⟨sent, prepared, fields⟩ := made
  exact ⟨sent, prepared, sentTo_prepared prepared, fields⟩

theorem prepare_defaults {method : Method} {url : Url} {defaults : Fields} {body : List UInt8}
    {sent : Request} (h : prepare method url [] defaults body = .ok sent) :
    ∃ login : Fields, (login = [] ∨ ∃ user password, login = [basicField user password]) ∧
      sent.method = method ∧ sent.fields = framed body (login ++ defaults) ∧
      sent.body = sentBody sent.fields body := by
  have all (fields : Fields) : Fields.replacing [] fields = fields := by
    simp [Fields.replacing, Fields.names]
  simpa only [all] using prepare_ok h

theorem values_prepared {method : Method} {url : Url} {fields defaults : Fields}
    {body : List UInt8} {sent : Request} (h : prepare method url fields defaults body = .ok sent)
    {name : String} (user : name ≠ "authorization") (framing : name ≠ "transfer-encoding")
    (other : defaults.values name = []) : sent.fields.values name = fields.values name := by
  obtain ⟨login, known, -, made, -⟩ := prepare_ok h
  have outside : Fields.values (login ++ defaults) name = [] := by
    rw [Fields.values_append, other, List.append_nil]
    rcases known with rfl | ⟨u, p, rfl⟩
    · rfl
    · simp [Fields.values, basicField, Ne.symm user]
  rw [made, values_framed body _ framing, Fields.values_replacing fields outside]

theorem subset_prepared {method : Method} {url : Url} {fields : Fields} {body : List UInt8}
    {sent : Request} (h : prepare method url fields [] body = .ok sent)
    (framing : "transfer-encoding" ∉ fields.names) : fields ⊆ sent.fields := by
  obtain ⟨login, known, -, made, -⟩ := prepare_ok h
  have outside : Fields.values (login ++ []) "transfer-encoding" = [] := by
    rcases known with rfl | ⟨user, password, rfl⟩ <;> rfl
  have plain : "transfer-encoding" ∉ Fields.names (fields.replacing (login ++ [])) := by
    rw [← Fields.values_eq_nil_iff, Fields.values_replacing fields outside,
      Fields.values_eq_nil_iff]
    exact framing
  rw [made, framed_of_not_mem body plain]
  exact List.subset_append_right _ _

/-- Fields that claim fewer bytes than a body has, and do not let it arrive in chunks. -/
def Fields.Cut (fields : Fields) (body : List UInt8) : Prop :=
  "transfer-encoding" ∉ fields.names ∧ ∃ n < body.length, claimedLength? fields = some n

theorem Fields.not_cut {fields : Fields} (h : "content-length" ∉ fields.names) (body : List UInt8) :
    ¬ fields.Cut body := by
  rintro ⟨-, n, -, claimed⟩
  simp [claimedLength?, (values_eq_nil_iff _ _).mpr h] at claimed

theorem sentBody_front (fields : Fields) (body : List UInt8) : sentBody fields body <+: body := by
  unfold sentBody
  split
  · exact List.prefix_rfl
  · split
    · exact List.take_prefix _ _
    · exact List.prefix_rfl

theorem sentBody_eq_iff (fields : Fields) (body : List UInt8) :
    sentBody fields body = body ↔ ¬ fields.Cut body := by
  unfold sentBody Fields.Cut
  by_cases chunks : "transfer-encoding" ∈ fields.names
  · simp [chunks]
  · cases claimed : claimedLength? fields with
    | none => simp [chunks]
    | some n => simp [chunks, List.take_eq_self_iff]

theorem cut_prepared {method : Method} {url : Url} {fields defaults : Fields} {body : List UInt8}
    {sent : Request} (h : prepare method url fields defaults body = .ok sent)
    (framing : "transfer-encoding" ∉ defaults.names)
    (length : "content-length" ∉ defaults.names) : sent.fields.Cut body ↔ fields.Cut body := by
  have unclaimed := (Fields.values_eq_nil_iff _ _).mpr length
  have claimed : claimedLength? sent.fields = claimedLength? fields := by
    unfold claimedLength?
    rw [values_prepared h (by decide) (by decide) unclaimed]
  by_cases filled : body = []
  · simp [Fields.Cut, filled]
  · obtain ⟨login, known, -, made, -⟩ := prepare_ok h
    have outside : Fields.values (login ++ defaults) "transfer-encoding" = [] := by
      rw [Fields.values_append, (Fields.values_eq_nil_iff _ _).mpr framing, List.append_nil]
      rcases known with rfl | ⟨u, p, rfl⟩ <;> rfl
    have arrives : "transfer-encoding" ∉ sent.fields.names ↔ "transfer-encoding" ∉ fields.names := by
      rw [made, mem_names_framed _ filled, ← Fields.values_eq_nil_iff,
        Fields.values_replacing fields outside, Fields.values_eq_nil_iff]
    simp only [Fields.Cut, arrives, claimed]

theorem body_prepared {method : Method} {url : Url} {fields defaults : Fields} {body : List UInt8}
    {sent : Request} (h : prepare method url fields defaults body = .ok sent)
    (framing : "transfer-encoding" ∉ defaults.names)
    (length : "content-length" ∉ defaults.names) :
    sent.body <+: body ∧ (sent.body = body ↔ ¬ fields.Cut body) := by
  obtain ⟨-, -, -, -, whole⟩ := prepare_ok h
  rw [whole]
  exact ⟨sentBody_front _ _, by rw [sentBody_eq_iff, cut_prepared h framing length]⟩

end HopProbe.Http
