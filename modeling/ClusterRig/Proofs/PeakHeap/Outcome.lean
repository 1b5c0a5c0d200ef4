import ClusterRig.PeakHeap
import ClusterRig.Proofs.Endpoint.Client
import ClusterRig.Proofs.Endpoint.NameText
import ClusterRig.Proofs.Endpoint.Values
import ClusterRig.Proofs.FirstFailure
import ClusterRig.Proofs.Text.Numeral

/-!
# Outcome of reading the peak heap

When the peak usage of a node is read, what it is, what it fails with, and what is
asked meanwhile, whatever the node answers, and however it changes its answers from one
request to the next. Main statement: the sum is exact, the failure is that of the first
pool that cannot be added, and every pool before it has taken two queries.
-/

namespace ClusterRig
namespace PeakHeap

/-- The bean of a pool and the number that its attribute holds. -/
structure Reading where
  bean : String
  bytes : Nat

namespace Reading

def requests (r : Reading) : List Request :=
  [.beans "java.lang", .get r.bean "PeakUsage.used"]

def total (rs : List Reading) : Nat := (rs.map bytes).foldr (· + ·) 0

theorem total_cons (r : Reading) (rs : List Reading) : total (r :: rs) = r.bytes + total rs := rfl

end Reading

/-- The queries that put requests to a node. -/
def asked (e : Endpoint) (requests : List Request) : List Query := requests.map (Query.mk e.name)

/-- The bean is the match in the first listed line that the pattern of the pool matches. -/
def Resolves (e : Endpoint) (pool bean : String) : Prop :=
  ∃ p before line after found, Pattern.compile? (".*" ++ pool) = some p ∧
    e.answer (.beans "java.lang") = .ok (before ++ line :: after) ∧
    p.find? line.toList = some found ∧ (∀ l ∈ before, p.find? l.toList = none) ∧
    bean = String.ofList (Text.trim found)

/-- The text is the value of the first line that has one. -/
def Carries (lines : List String) (raw : String) : Prop :=
  ∃ before line after, lines = before ++ line :: after ∧
    valueOf? "PeakUsage.used".toList line.toList = some raw.toList ∧
    ∀ l ∈ before, valueOf? "PeakUsage.used".toList l.toList = none

/-- What the node answers when the peak usage of a bean is asked for, next after the beans. -/
def shown (e : Endpoint) (bean : String) : Except Failure (List String) :=
  e.answerAfter [.beans "java.lang"] (.get bean "PeakUsage.used")

/-- The number of a pool as the node has it. -/
def Reads (e : Endpoint) (pool : String) (r : Reading) : Prop :=
  Resolves e pool r.bean ∧ ∃ lines raw, shown e r.bean = .ok lines ∧
    Carries lines raw ∧ Text.Denotes raw.toList r.bytes ∧ r.bytes < UInt64.size

/-- Pools are read one after the other, each from the node as the requests for those before
it have left it. -/
inductive ReadInTurn : Endpoint → List String → List Reading → Prop
  | nil (e) : ReadInTurn e [] []
  | cons {e pool r pools rs} (h : Reads e pool r) (hs : ReadInTurn (e.after r.requests) pools rs) :
      ReadInTurn e (pool :: pools) (r :: rs)

/-- A failure of reading a pool, and the requests up to it. -/
inductive Unread (e : Endpoint) (pool : String) : Failure → List Request → Prop
  | unlisted {f} (h : e.answer (.beans "java.lang") = .error f) :
      Unread e pool (.beanNotFound e.name (".*" ++ pool) "java.lang") [.beans "java.lang"]
  | unmatched {p lines} (hp : Pattern.compile? (".*" ++ pool) = some p)
      (h : e.answer (.beans "java.lang") = .ok lines) (hl : ∀ l ∈ lines, p.find? l.toList = none) :
      Unread e pool (.beanNotFound e.name (".*" ++ pool) "java.lang") [.beans "java.lang"]
  | unanswered {bean f} (hb : Resolves e pool bean) (h : shown e bean = .error f) :
      Unread e pool f [.beans "java.lang", .get bean "PeakUsage.used"]
  | valueless {bean lines} (hb : Resolves e pool bean) (h : shown e bean = .ok lines)
      (hv : ∀ l ∈ lines, valueOf? "PeakUsage.used".toList l.toList = none) :
      Unread e pool (.valueMissing bean "PeakUsage.used")
        [.beans "java.lang", .get bean "PeakUsage.used"]
  | notNumeric {bean lines raw} (hb : Resolves e pool bean) (h : shown e bean = .ok lines)
      (hc : Carries lines raw) (hn : ∀ n, Text.Denotes raw.toList n → UInt64.size ≤ n) :
      Unread e pool (.readingNotNumeric e.name "PeakUsage.used" raw bean)
        [.beans "java.lang", .get bean "PeakUsage.used"]

/-- A failure of adding a pool to a sum, and the requests up to it. -/
inductive Fails (e : Endpoint) (pool : String) (sum : Nat) : Failure → List Request → Prop
  | unread {f requests} (h : Unread e pool f requests) : Fails e pool sum f requests
  | overflow {r} (h : Reads e pool r) (ho : UInt64.size ≤ sum + r.bytes) :
      Fails e pool sum (.readingsOverflow e.name) r.requests

variable {e : Endpoint} {pool : String}

theorem compile?_pattern (h : pool ∈ pools) :
    Pattern.compile? (pattern pool) = some ⟨pattern pool, Pattern.anyThen pool.toList⟩ := by
  have ht : Endpoint.NameText pool := Endpoint.nameText_pools pool h
  exact Pattern.compile?_anyThen ht.plain ht.toList_ne_nil

theorem findBean_eq_ok_iff {p : Pattern} (hp : Pattern.compile? (pattern pool) = some p)
    {bean : String} {qs : List Query} :
    e.findBean (pattern pool) none domain = ⟨qs, .ok bean⟩ ↔
      qs = asked e [.beans domain] ∧ Resolves e pool bean := by
  rw [Endpoint.findBean_eq_ok_iff (Endpoint.compile_eq_ok_iff.mpr hp) rfl]
  refine and_congr_right fun _ => ?_
  constructor
  · rintro ⟨before, line, after, ha, hl, hb⟩
    obtain ⟨found, hf, -, hn⟩ := Endpoint.candidate?_eq_some_iff.mp hl
    exact ⟨p, before, line, after, found, hp, ha, hf,
      fun l hm => Endpoint.candidate?_none_eq_none_iff.mp (hb l hm), hn⟩
  · rintro ⟨q, before, line, after, found, hq, ha, hf, hb, hn⟩
    obtain rfl := Option.some.inj (hq.symm.trans hp)
    exact ⟨before, line, after, ha,
      Endpoint.candidate?_eq_some_iff.mpr ⟨found, hf, by simp, hn⟩,
      fun l hm => Endpoint.candidate?_none_eq_none_iff.mpr (hb l hm)⟩

theorem findBean_eq_error_iff {p : Pattern} (hp : Pattern.compile? (pattern pool) = some p)
    {f : Failure} {qs : List Query} :
    e.findBean (pattern pool) none domain = ⟨qs, .error f⟩ ↔
      qs = asked e [.beans domain] ∧ f = .beanNotFound e.name (pattern pool) domain ∧
        ∀ lines, e.answer (.beans domain) = .ok lines → ∀ l ∈ lines, p.find? l.toList = none := by
  rw [Endpoint.findBean_eq_error_iff (Endpoint.compile_eq_ok_iff.mpr hp) rfl]
  simp only [Endpoint.candidate?_none_eq_none_iff]
  rfl

theorem reading_eq_ok_iff {node bean raw : String} {n : UInt64} :
    reading node bean raw = .ok n ↔ Text.Denotes raw.toList n.toNat := by
  rw [← Text.word?_eq_some_iff, reading]
  cases Text.word? raw.toList <;> simp

theorem reading_eq_error_iff {node bean raw : String} {f : Failure} :
    reading node bean raw = .error f ↔
      (∀ n, Text.Denotes raw.toList n → UInt64.size ≤ n) ∧
        f = .readingNotNumeric node attr raw bean := by
  have h : (∀ n, Text.Denotes raw.toList n → UInt64.size ≤ n) ↔ Text.word? raw.toList = none :=
    Text.word?_eq_none_iff.symm
  rw [h, reading]
  cases Text.word? raw.toList <;> simp [eq_comm]

theorem requests_asked (e : Endpoint) (requests : List Request) :
    (asked e requests).map Query.request = requests := by
  simp [asked, Function.comp_def]

theorem asked_after (e : Endpoint) (made requests : List Request) :
    asked (e.after made) requests = asked e requests := rfl

theorem asked_append (e : Endpoint) (made more : List Request) :
    asked e (made ++ more) = asked e made ++ asked e more := List.map_append

/-- The number in the answer of a node, of which the first value counts. -/
def answered (e : Endpoint) (bean : String) : Except Failure UInt64 := do
  let lines ← e.answer (.get bean attr)
  let raw ← Values.first ⟨bean, attr, lines⟩
  reading e.name bean raw

theorem beanBytes_apply (bean : String) (e : Endpoint) :
    beanBytes bean e = ⟨asked e [.get bean attr], answered e bean⟩ := by
  have h : beanBytes bean e = e.values bean attr >>= fun values =>
      Traced.ofExcept values.first >>= fun raw => Traced.ofExcept (reading e.name bean raw) := rfl
  rw [h]
  unfold answered
  cases ha : e.answer (.get bean attr) with
  | error f =>
    have hv : e.values bean attr = ⟨asked e [.get bean attr], .error f⟩ :=
      Traced.bind_eq_of_error _ ha
    rw [hv]
    rfl
  | ok lines =>
    have hv : e.values bean attr = ⟨asked e [.get bean attr], .ok ⟨bean, attr, lines⟩⟩ :=
      Traced.bind_eq_of_ok _ ha
    rw [hv, Traced.bind_eq_of_ok _ rfl, Traced.ofExcept_bind]
    rfl

theorem beanBytes_eq_iff {bean : String} {qs : List Query} {o : Except Failure UInt64} :
    beanBytes bean e = ⟨qs, o⟩ ↔ qs = asked e [.get bean attr] ∧ answered e bean = o := by
  rw [beanBytes_apply, Traced.mk.injEq, eq_comm (a := qs)]

theorem value?_eq_some_iff {bean raw line : String} {lines : List String} :
    Values.value? ⟨bean, attr, lines⟩ line = some raw ↔
      valueOf? attr.toList line.toList = some raw.toList := by
  rw [Values.value?, Option.map_eq_some_iff]
  constructor
  · rintro ⟨v, hv, rfl⟩
    rw [hv, String.toList_ofList]
  · intro h
    exact ⟨raw.toList, h, String.ofList_toList⟩

theorem value?_eq_none_iff {bean line : String} {lines : List String} :
    Values.value? ⟨bean, attr, lines⟩ line = none ↔ valueOf? attr.toList line.toList = none := by
  simp [Values.value?]

theorem first_eq_ok_iff {bean raw : String} {lines : List String} :
    Values.first ⟨bean, attr, lines⟩ = .ok raw ↔ Carries lines raw := by
  simp only [Values.first_eq_ok_iff, value?_eq_some_iff, value?_eq_none_iff]
  rfl

theorem first_eq_error_iff {bean : String} {lines : List String} {f : Failure} :
    Values.first ⟨bean, attr, lines⟩ = .error f ↔
      (∀ l ∈ lines, valueOf? attr.toList l.toList = none) ∧ f = .valueMissing bean attr := by
  simp only [Values.first_eq_error_iff, value?_eq_none_iff]

theorem answered_eq_ok_iff {bean : String} {n : UInt64} :
    answered e bean = .ok n ↔ ∃ lines raw, e.answer (.get bean attr) = .ok lines ∧
      Carries lines raw ∧ Text.Denotes raw.toList n.toNat := by
  simp only [answered, FirstFailure.bind_eq_ok_iff, first_eq_ok_iff, reading_eq_ok_iff,
    exists_and_left]

theorem answered_eq_error_iff {bean : String} {f : Failure} :
    answered e bean = .error f ↔ e.answer (.get bean attr) = .error f ∨
      ∃ lines, e.answer (.get bean attr) = .ok lines ∧
        ((∀ l ∈ lines, valueOf? attr.toList l.toList = none) ∧ f = .valueMissing bean attr ∨
          ∃ raw, Carries lines raw ∧ (∀ n, Text.Denotes raw.toList n → UInt64.size ≤ n) ∧
            f = .readingNotNumeric e.name attr raw bean) := by
  simp only [answered, FirstFailure.bind_eq_error_iff, first_eq_ok_iff, first_eq_error_iff,
    reading_eq_error_iff]

/-- The endpoint of which a bean is asked is the one that has listed the beans. -/
theorem answer_listed (bean : String) :
    (e.after [.beans domain]).answer (.get bean attr) = shown e bean :=
  e.answer_after _ _

theorem poolBytes_eq_ok_iff (h : pool ∈ pools) {qs : List Query} {n : UInt64} :
    poolBytes pool e = ⟨qs, .ok n⟩ ↔
      ∃ r, Reads e pool r ∧ r.bytes = n.toNat ∧ qs = asked e r.requests := by
  rw [poolBytes, Client.bind_eq_ok_iff]
  constructor
  · rintro ⟨_, bean, _, hf, ht, rfl⟩
    obtain ⟨rfl, hb⟩ := (findBean_eq_ok_iff (compile?_pattern h)).mp hf
    obtain ⟨rfl, hr⟩ := beanBytes_eq_iff.mp ht
    obtain ⟨lines, raw, ha, hc, hd⟩ := answered_eq_ok_iff.mp hr
    rw [requests_asked, answer_listed] at ha
    exact ⟨⟨bean, n.toNat⟩, ⟨hb, lines, raw, ha, hc, hd, n.toNat_lt_size⟩, rfl, rfl⟩
  · rintro ⟨⟨bean, bytes⟩, ⟨hb, lines, raw, ha, hc, hd, -⟩, rfl, rfl⟩
    refine ⟨_, bean, asked e [.get bean attr],
      (findBean_eq_ok_iff (compile?_pattern h)).mpr ⟨rfl, hb⟩, ?_, rfl⟩
    rw [requests_asked]
    refine beanBytes_eq_iff.mpr ⟨rfl, answered_eq_ok_iff.mpr ⟨lines, raw, ?_, hc, hd⟩⟩
    rwa [answer_listed]

/-- Finding the bean first and failing with what it shows. -/
theorem poolBytes_of_resolves (h : pool ∈ pools) {bean : String} {f : Failure}
    (hb : Resolves e pool bean) (hf : answered (e.after [.beans domain]) bean = .error f) :
    poolBytes pool e = ⟨asked e [.beans domain, .get bean attr], .error f⟩ := by
  rw [poolBytes, Client.bind_eq_error_iff]
  refine .inr ⟨_, bean, asked e [.get bean attr],
    (findBean_eq_ok_iff (compile?_pattern h)).mpr ⟨rfl, hb⟩, ?_, rfl⟩
  rw [requests_asked]
  exact beanBytes_eq_iff.mpr ⟨rfl, hf⟩

theorem poolBytes_eq_error_iff (h : pool ∈ pools) {qs : List Query} {f : Failure} :
    poolBytes pool e = ⟨qs, .error f⟩ ↔
      ∃ requests, Unread e pool f requests ∧ qs = asked e requests := by
  constructor
  · rw [poolBytes, Client.bind_eq_error_iff]
    rintro (hf | ⟨_, bean, _, hf, ht, rfl⟩)
    · obtain ⟨rfl, rfl, hl⟩ := (findBean_eq_error_iff (compile?_pattern h)).mp hf
      refine ⟨[.beans domain], ?_, rfl⟩
      cases ha : e.answer (.beans domain) with
      | error g => exact .unlisted ha
      | ok lines => exact .unmatched (compile?_pattern h) ha (hl lines ha)
    · obtain ⟨rfl, hb⟩ := (findBean_eq_ok_iff (compile?_pattern h)).mp hf
      obtain ⟨rfl, hr⟩ := beanBytes_eq_iff.mp ht
      rw [requests_asked] at hr
      refine ⟨[.beans domain, .get bean attr], ?_, rfl⟩
      rw [answered_eq_error_iff, answer_listed] at hr
      rcases hr with ha | ⟨lines, ha, ⟨hv, rfl⟩ | ⟨raw, hc, hn, rfl⟩⟩
      · exact .unanswered hb ha
      · exact .valueless hb ha hv
      · exact .notNumeric hb ha hc hn
  · rintro ⟨requests, hu, rfl⟩
    have hfound : ∀ {bean : String}, Resolves e pool bean →
        (shown e bean = .error f ∨ ∃ lines, shown e bean = .ok lines ∧
          ((∀ l ∈ lines, valueOf? attr.toList l.toList = none) ∧ f = .valueMissing bean attr ∨
            ∃ raw, Carries lines raw ∧ (∀ n, Text.Denotes raw.toList n → UInt64.size ≤ n) ∧
              f = .readingNotNumeric e.name attr raw bean)) →
        poolBytes pool e = ⟨asked e [.beans domain, .get bean attr], .error f⟩ := by
      intro bean hb hr
      rw [← answer_listed] at hr
      exact poolBytes_of_resolves h hb (answered_eq_error_iff.mpr hr)
    have hmissing : ∀ {g}, e.findBean (pattern pool) none domain =
        ⟨asked e [.beans domain], .error g⟩ →
          poolBytes pool e = ⟨asked e [.beans domain], .error g⟩ :=
      fun hg => Client.bind_eq_error_iff.mpr (.inl hg)
    cases hu with
    | unlisted ha =>
      exact hmissing ((findBean_eq_error_iff (compile?_pattern h)).mpr
        ⟨rfl, rfl, fun lines hl => by cases hl.symm.trans ha⟩)
    | unmatched hp ha hl =>
      refine hmissing ((findBean_eq_error_iff hp).mpr ⟨rfl, rfl, fun lines hlines => ?_⟩)
      obtain rfl := Except.ok.inj (ha.symm.trans hlines)
      exact hl
    | unanswered hb ha => exact hfound hb (.inl ha)
    | valueless hb ha hv => exact hfound hb (.inr ⟨_, ha, .inl ⟨hv, rfl⟩⟩)
    | notNumeric hb ha hc hn => exact hfound hb (.inr ⟨_, ha, .inr ⟨_, hc, hn, rfl⟩⟩)

theorem plus_eq_ok_iff {node : String} {a b t : UInt64} :
    plus node a b = .ok t ↔ t.toNat = a.toNat + b.toNat := by
  have ht := t.toNat_lt_size
  unfold plus
  constructor
  · intro h
    split_ifs at h with hlt
    obtain rfl := Except.ok.inj h
    rw [UInt64.toNat_add, Nat.mod_eq_of_lt hlt]
  · intro h
    have hlt : a.toNat + b.toNat < UInt64.size := h ▸ ht
    rw [if_pos hlt]
    congr 1
    rw [← UInt64.toNat_inj, UInt64.toNat_add, Nat.mod_eq_of_lt hlt, h]

theorem plus_eq_error_iff {node : String} {a b : UInt64} {f : Failure} :
    plus node a b = .error f ↔ UInt64.size ≤ a.toNat + b.toNat ∧ f = .readingsOverflow node := by
  unfold plus
  split_ifs with h
  · simp only [false_iff, not_and]
    omega
  · rw [Except.error.injEq, eq_comm]
    exact ⟨fun hf => ⟨by omega, hf⟩, fun hf => hf.2⟩

theorem Reads.bytes_lt {r : Reading} (h : Reads e pool r) : r.bytes < UInt64.size := by
  obtain ⟨-, _, _, -, -, -, hlt⟩ := h
  exact hlt

theorem addPool_eq_ok_iff (h : pool ∈ pools) {sum t : UInt64} {qs : List Query} :
    addPool sum pool e = ⟨qs, .ok t⟩ ↔
      ∃ r, Reads e pool r ∧ t.toNat = sum.toNat + r.bytes ∧ qs = asked e r.requests := by
  rw [addPool, Client.bind_eq_ok_iff]
  simp only [poolBytes_eq_ok_iff h, Client.named_apply, Traced.ofExcept_eq_iff, plus_eq_ok_iff]
  constructor
  · rintro ⟨_, n, _, ⟨r, hr, hn, rfl⟩, ⟨rfl, ht⟩, rfl⟩
    exact ⟨r, hr, by rw [ht, hn], List.append_nil _⟩
  · rintro ⟨r, hr, ht, rfl⟩
    have hn : (UInt64.ofNat r.bytes).toNat = r.bytes := UInt64.toNat_ofNat_of_lt' hr.bytes_lt
    exact ⟨_, UInt64.ofNat r.bytes, [], ⟨r, hr, hn.symm, rfl⟩, ⟨rfl, by rw [ht, hn]⟩,
      (List.append_nil _).symm⟩

theorem addPool_eq_error_iff (h : pool ∈ pools) {sum : UInt64} {qs : List Query} {f : Failure} :
    addPool sum pool e = ⟨qs, .error f⟩ ↔
      ∃ requests, Fails e pool sum.toNat f requests ∧ qs = asked e requests := by
  rw [addPool, Client.bind_eq_error_iff]
  simp only [poolBytes_eq_ok_iff h, poolBytes_eq_error_iff h, Client.named_apply,
    Traced.ofExcept_eq_iff, plus_eq_error_iff]
  constructor
  · rintro (⟨requests, hu, rfl⟩ | ⟨_, n, _, ⟨r, hr, hn, rfl⟩, ⟨rfl, ho, rfl⟩, rfl⟩)
    · exact ⟨requests, .unread hu, rfl⟩
    · exact ⟨r.requests, .overflow hr (by rwa [hn]), List.append_nil _⟩
  · rintro ⟨requests, hf, rfl⟩
    cases hf with
    | unread hu => exact .inl ⟨requests, hu, rfl⟩
    | @overflow r hr ho =>
      have hn : (UInt64.ofNat r.bytes).toNat = r.bytes := UInt64.toNat_ofNat_of_lt' hr.bytes_lt
      exact .inr ⟨_, UInt64.ofNat r.bytes, [], ⟨r, hr, hn.symm, rfl⟩,
        ⟨rfl, by rwa [hn], rfl⟩, (List.append_nil _).symm⟩

/-- The requests of a pool and those of the pools after it. -/
theorem asked_cons (e : Endpoint) (r : Reading) (rs : List Reading) (requests : List Request) :
    asked e r.requests ++
        asked (e.after r.requests) (rs.flatMap Reading.requests ++ requests) =
      asked e ((r :: rs).flatMap Reading.requests ++ requests) := by
  rw [asked_after, ← asked_append, List.flatMap_cons, List.append_assoc]

theorem foldlM_eq_ok_iff {l : List String} (hl : ∀ pool ∈ l, pool ∈ pools) {sum t : UInt64}
    {qs : List Query} :
    l.foldlM addPool sum e = ⟨qs, .ok t⟩ ↔ ∃ rs, ReadInTurn e l rs ∧
      t.toNat = sum.toNat + Reading.total rs ∧ qs = asked e (rs.flatMap Reading.requests) := by
  induction l generalizing e sum qs with
  | nil =>
    rw [List.foldlM_nil]
    constructor
    · intro h
      obtain ⟨rfl, ht⟩ := Traced.mk.inj h
      obtain rfl := Except.ok.inj ht
      exact ⟨[], .nil e, rfl, rfl⟩
    · rintro ⟨_, _ | _, ht, rfl⟩
      obtain rfl := UInt64.toNat_inj.mp ht
      rfl
  | cons pool l ih =>
    have ih := fun e => @ih e fun q hq => hl q (List.mem_cons_of_mem pool hq)
    have hp := hl pool List.mem_cons_self
    rw [List.foldlM_cons, Client.bind_eq_ok_iff]
    simp only [addPool_eq_ok_iff hp, ih]
    constructor
    · rintro ⟨_, m, _, ⟨r, hr, hm, rfl⟩, ⟨rs, hrs, ht, rfl⟩, rfl⟩
      rw [requests_asked] at hrs
      refine ⟨r :: rs, .cons hr hrs, ?_, ?_⟩
      · rw [ht, hm, Reading.total_cons, Nat.add_assoc]
      · rw [requests_asked]
        simpa using asked_cons e r rs []
    · rintro ⟨_, _ | @⟨_, _, r, _, rs, hr, hrs⟩, ht, rfl⟩
      have hlt := t.toNat_lt_size
      rw [Reading.total_cons] at ht
      have hm : (UInt64.ofNat (sum.toNat + r.bytes)).toNat = sum.toNat + r.bytes :=
        UInt64.toNat_ofNat_of_lt' (by omega)
      refine ⟨_, UInt64.ofNat (sum.toNat + r.bytes), _, ⟨r, hr, hm, rfl⟩, ⟨rs, ?_, ?_, rfl⟩, ?_⟩
      · rwa [requests_asked]
      · rw [ht, hm, Nat.add_assoc]
      · rw [requests_asked]
        simpa using (asked_cons e r rs []).symm

theorem foldlM_eq_error_iff {l : List String} (hl : ∀ pool ∈ l, pool ∈ pools) {sum : UInt64}
    {qs : List Query} {f : Failure} :
    l.foldlM addPool sum e = ⟨qs, .error f⟩ ↔ ∃ before pool after rs requests,
      l = before ++ pool :: after ∧ ReadInTurn e before rs ∧
      sum.toNat + Reading.total rs < UInt64.size ∧
      Fails (e.after (rs.flatMap Reading.requests)) pool (sum.toNat + Reading.total rs) f
        requests ∧
      qs = asked e (rs.flatMap Reading.requests ++ requests) := by
  induction l generalizing e sum qs with
  | nil =>
    constructor
    · intro h
      cases congrArg Traced.outcome h
    · rintro ⟨before, _, _, _, _, h, -⟩
      simp at h
  | cons pool l ih =>
    have ih := fun e => @ih e fun q hq => hl q (List.mem_cons_of_mem pool hq)
    have hp := hl pool List.mem_cons_self
    rw [List.foldlM_cons, Client.bind_eq_error_iff]
    simp only [addPool_eq_ok_iff hp, addPool_eq_error_iff hp, ih]
    constructor
    · rintro (⟨requests, hf, rfl⟩ | ⟨_, m, _, ⟨r, hr, hm, rfl⟩,
        ⟨before, q, after, rs, requests, rfl, hrs, hlt, hf, rfl⟩, rfl⟩)
      · exact ⟨[], pool, l, [], requests, rfl, .nil e, sum.toNat_lt_size, hf, rfl⟩
      · have ht : m.toNat + Reading.total rs = sum.toNat + Reading.total (r :: rs) := by
          rw [hm, Reading.total_cons, Nat.add_assoc]
        rw [requests_asked] at hrs hf
        rw [ht] at hlt hf
        rw [← Endpoint.after_append, ← List.flatMap_cons] at hf
        refine ⟨pool :: before, q, after, r :: rs, requests, rfl, .cons hr hrs, hlt, hf, ?_⟩
        rw [requests_asked, asked_cons]
    · rintro ⟨_, q, after, _, requests, h, _ | @⟨_, _, r, before, rs, hr, hrs⟩, hlt, hf, rfl⟩
      · obtain ⟨rfl, rfl⟩ := List.cons.inj h
        exact .inl ⟨requests, hf, rfl⟩
      · obtain ⟨rfl, rfl⟩ := List.cons.inj h
        rw [Reading.total_cons, ← Nat.add_assoc] at hlt hf
        rw [List.flatMap_cons, Endpoint.after_append] at hf
        have hm : (UInt64.ofNat (sum.toNat + r.bytes)).toNat = sum.toNat + r.bytes :=
          UInt64.toNat_ofNat_of_lt' (by omega)
        refine .inr ⟨_, UInt64.ofNat (sum.toNat + r.bytes), _, ⟨r, hr, hm, rfl⟩,
          ⟨before, q, after, rs, requests, rfl, ?_, ?_, ?_, rfl⟩, ?_⟩
        · rwa [requests_asked]
        · rwa [hm]
        · rwa [requests_asked, hm]
        · rw [requests_asked, asked_cons]

/-- A node has a peak usage exactly if each of its three pools can be read and the sum fits; the
failure is otherwise that of the first pool that cannot be added. The node may answer every
request in another way than those before it. -/
theorem nodeBytes_outcome (e : Endpoint) :
    (∀ qs t, nodeBytes e = ⟨qs, .ok t⟩ ↔ ∃ rs,
      ReadInTurn e ["G1 Eden Space,type=MemoryPool", "G1 Old Gen,type=MemoryPool",
        "G1 Survivor Space,type=MemoryPool"] rs ∧
      t.toNat = Reading.total rs ∧ qs = asked e (rs.flatMap Reading.requests)) ∧
    (∀ qs f, nodeBytes e = ⟨qs, .error f⟩ ↔ ∃ before pool after rs requests,
      ["G1 Eden Space,type=MemoryPool", "G1 Old Gen,type=MemoryPool",
        "G1 Survivor Space,type=MemoryPool"] = before ++ pool :: after ∧
      ReadInTurn e before rs ∧ Reading.total rs < UInt64.size ∧
      Fails (e.after (rs.flatMap Reading.requests)) pool (Reading.total rs) f requests ∧
      qs = asked e (rs.flatMap Reading.requests ++ requests)) := by
  have h0 : (0 : UInt64).toNat = 0 := rfl
  constructor
  · intro qs t
    rw [nodeBytes, foldlM_eq_ok_iff fun _ h => h]
    simp only [h0, Nat.zero_add]
    rfl
  · intro qs f
    rw [nodeBytes, foldlM_eq_error_iff fun _ h => h]
    simp only [h0, Nat.zero_add]
    rfl

/-- A node that lists its beans only once. -/
example :
    let listed := ["java.lang:name=G1 Eden Space,type=MemoryPool",
      "java.lang:name=G1 Old Gen,type=MemoryPool"]
    let e : Endpoint := ⟨"server-1", fun earlier r =>
      match r with
      | .beans _ => if earlier.isEmpty then .ok listed else .error (.endpoint "busy")
      | .get _ _ => .ok ["PeakUsage.used = 7;"]⟩
    (nodeBytes e).outcome =
        .error (.beanNotFound "server-1" ".*G1 Old Gen,type=MemoryPool" "java.lang") ∧
      (nodeBytes e).queries = [⟨"server-1", .beans "java.lang"⟩,
        ⟨"server-1", .get "java.lang:name=G1 Eden Space,type=MemoryPool" "PeakUsage.used"⟩,
        ⟨"server-1", .beans "java.lang"⟩] := by
  decide +kernel

end PeakHeap
end ClusterRig
