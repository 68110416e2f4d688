import IdentityOperator.Proofs.RealmDeclaration.Plan
import IdentityOperator.Proofs.TextMap
import Mathlib.Data.List.Nodup

/-!
The credential secrets of the users of declared realms: how they are called, and what is planned for
a realm that is new.

The name of a secret is put together from the names of the realm, the user and the namespace, and
what does not fit into a name is changed or dropped. Different users may therefore share a name; they
do not if the names of realms are plain and without dashes (`UserSecret.name_inj`).

A secret holds a password for every user. It opens the account in the realm that is created just if
the user declares a password (`KeycloakRealm.handed_out_password_opens_account_iff`): one that has
been made for him is told to nobody else.
-/

namespace IdentityOperator

/-! ## Names -/

/-- A text with nothing in it that does not fit into the name of an object. -/
def IsPlainName (text : String) : Prop :=
  ∀ c ∈ text.toList, ('0' ≤ c ∧ c ≤ '9') ∨ ('a' ≤ c ∧ c ≤ 'z') ∨ c = '-' ∨ c = '.'

theorem sanitizeName_append (first second : String) :
    sanitizeName (first ++ second) = sanitizeName first ++ sanitizeName second := by
  simp only [sanitizeName, String.toList_append, List.filterMap_append, String.ofList_append]

theorem sanitizeName_of_isPlainName {text : String} (plain : IsPlainName text) :
    sanitizeName text = text := by
  have kept : (sanitizeName text).toList = text.toList := by
    rw [sanitizeName, String.toList_ofList]
    unfold IsPlainName at plain
    generalize text.toList = cs at plain
    induction cs with
    | nil => rfl
    | cons c rest ih =>
      obtain ⟨fits, plain⟩ := List.forall_mem_cons.1 plain
      simp only [List.filterMap_cons, if_pos fits, ih plain]
  exact String.toList_inj.1 kept

/-- Two texts that are joined by a character are told apart if the first one does not have it. -/
theorem joined_inj {separator : Char} {front other back rest : List Char}
    (absent : separator ∉ front) (absent_too : separator ∉ other)
    (same : front ++ separator :: back = other ++ separator :: rest) :
    front = other ∧ back = rest := by
  have first : ∀ {cs left : List Char}, separator ∉ cs →
      (cs ++ separator :: left).takeWhile (· ≠ separator) = cs := by
    intro cs left absent
    rw [List.takeWhile_append_of_pos fun c mem => by
      simpa using fun same : c = separator => absent (same ▸ mem)]
    simp
  have front_eq : front = other := by rw [← first absent, same, first absent_too]
  subst front_eq
  exact ⟨rfl, (List.cons.inj (List.append_cancel_left same)).2⟩

namespace UserSecret

/-- The names of a realm and a user that can be read off the name of his secret. -/
structure IsTelling (realm username : String) : Prop where
  realm_plain : IsPlainName realm
  realm_dashless : '-' ∉ realm.toList
  username_plain : IsPlainName username

theorem toList_name {realm username : String} (telling : IsTelling realm username) (ns : String) :
    (name ns realm username).toList = "credential-".toList ++
      (realm.toList ++ '-' :: username.toList) ++ (sanitizeName ("-" ++ ns)).toList := by
  have front : sanitizeName "credential-" = "credential-" := by decide
  have dash : sanitizeName "-" = "-" := by decide
  rw [name, String.append_assoc, sanitizeName_append, sanitizeName_append, sanitizeName_append,
    sanitizeName_append, front, dash, sanitizeName_of_isPlainName telling.realm_plain,
    sanitizeName_of_isPlainName telling.username_plain]
  simp

/-- Users whose names are of this sort do not share a secret. -/
theorem name_inj {ns realm other username namesake : String} (telling : IsTelling realm username)
    (telling_too : IsTelling other namesake)
    (same : name ns realm username = name ns other namesake) :
    realm = other ∧ username = namesake := by
  have texts := congrArg String.toList same
  rw [toList_name telling, toList_name telling_too] at texts
  have joined := List.append_cancel_left (List.append_cancel_right texts)
  obtain ⟨realm_eq, user_eq⟩ := joined_inj telling.realm_dashless telling_too.realm_dashless joined
  exact ⟨String.toList_inj.1 realm_eq, String.toList_inj.1 user_eq⟩

/-! ## Contents -/

variable {kc other : Keycloak}

/-- A secret does not depend on anything of an installation but its namespace. -/
theorem key_congr (ns_eq : kc.ns = other.ns) (declared : KeycloakRealm) (user : Admin.User) :
    key declared user kc = key declared user other := by
  rw [key, key, ns_eq]

theorem fresh_congr (ns_eq : kc.ns = other.ns) (declared : KeycloakRealm) (user : Admin.User)
    (password : String) : fresh declared user kc password = fresh declared user other password := by
  rw [fresh, fresh, key_congr ns_eq]

theorem key_fresh (declared : KeycloakRealm) (user : Admin.User) (kc : Keycloak)
    (password : String) :
    (⟨.secret, fresh declared user kc password⟩ : Object).key = key declared user kc := rfl

/-- The secret of a user is never taken for the database secret. -/
theorem key_ne_databaseSecret_key (declared : KeycloakRealm) (user : Admin.User)
    (kc : Keycloak) : key declared user kc ≠ DatabaseSecret.key kc := by
  intro same
  have front : sanitizeName "credential-" = "credential-" := by decide
  have first := congrArg (fun key => key.name.toList.head?) same
  simp [key, name, sanitizeName_append, front, DatabaseSecret.key, DatabaseSecret.name,
    Keycloak.keyOf] at first

/-- A secret with the credentials of a user: with his name, with his password if he declares one, and
with nothing else. -/
structure IsOf (user : Admin.User) (secret : Secret) : Prop where
  username : secret.data.bind (·.get? "username") = some (Utf8.encode user.username)
  password : ∀ password, user.password? = some password →
    secret.data.bind (·.get? "password") = some (Utf8.encode password)
  nothing_else : ∀ key, key ≠ "username" → key ≠ "password" → secret.data.bind (·.get? key) = none

theorem data_fresh (declared : KeycloakRealm) (user : Admin.User) (kc : Keycloak)
    (password key : String) :
    (fresh declared user kc password).data.bind (·.get? key) =
      if key = "password" then some (Utf8.encode (user.password?.getD password))
      else if key = "username" then some (Utf8.encode user.username) else none := by
  simp only [fresh, opaqueSecret, Option.bind_some, List.map_cons, List.map_nil, TextMap.ofList,
    TextMap.insertMany_cons, TextMap.insertMany_nil, TextMap.get?_insert, usernameKey, passwordKey]
  rfl

theorem isOf_fresh (declared : KeycloakRealm) (user : Admin.User) (kc : Keycloak)
    (password : String) : IsOf user (fresh declared user kc password) where
  username := by rw [data_fresh, if_neg (by decide), if_pos rfl]
  password := by
    intro own own_eq
    rw [data_fresh, if_pos rfl, own_eq, Option.getD_some]
  nothing_else := by
    intro key not_name not_password
    rw [data_fresh, if_neg not_password, if_neg not_name]

end UserSecret

/-! ## Passwords -/

/-- A password that lets a user in: the value of one of his credentials, and not empty. -/
def Admin.User.LogsInWith (user : Admin.User) (password : String) : Prop :=
  ∃ credential ∈ user.credentials, credential.credentialType = "password" ∧
    credential.value ≠ "" ∧ credential.value = password

theorem Admin.User.logsInWith_of_password? {user : Admin.User} {password : String}
    (declares : user.password? = some password) : user.LogsInWith password := by
  obtain ⟨credential, found, rfl⟩ := Option.map_eq_some_iff.1 declares
  have fits := List.find?_some found
  rw [decide_eq_true_eq] at fits
  exact ⟨credential, List.mem_of_find?_eq_some found, fits.1, fits.2, rfl⟩

theorem Admin.User.LogsInWith.isSome_password? {user : Admin.User} {password : String}
    (logs_in : user.LogsInWith password) : user.password?.isSome := by
  obtain ⟨credential, mem, is_password, nonempty, -⟩ := logs_in
  rw [password?, Option.isSome_map, List.find?_isSome]
  exact ⟨credential, mem, by simp [is_password, nonempty]⟩

/-! ## A realm that is new -/

/-- A plan creates a secret under a key. -/
def Plan.CreatesSecret (plan : Plan) (key : ObjectKey) (secret : Secret) : Prop :=
  (⟨.secret, secret⟩ : Object).key = key ∧ ∃ msg, .create ⟨.secret, secret⟩ msg ∈ plan

namespace KeycloakRealm

variable {declared : KeycloakRealm} {kc : Keycloak} {state : RealmSnapshot}
  {passwords : Nat → String} {user : Admin.User}

/-- A user who has no secret gets one. -/
theorem create_mem_plan (live : declared.isTombstoned = false)
    (declares : user ∈ declared.spec.realm.users)
    (lacks : state.hasUserSecret user.username = false) :
    ∃ password msg, .create ⟨.secret, UserSecret.fresh declared user kc password⟩ msg ∈
      declared.plan kc passwords state := by
  obtain ⟨i, bound, rfl⟩ := List.getElem_of_mem declares
  have planned : ∃ msg, .create ⟨.secret, UserSecret.fresh declared declared.spec.realm.users[i] kc
      (passwords i)⟩ msg ∈ declared.usersPlan kc state passwords := by
    have own : declared.userPlan kc state (passwords i) declared.spec.realm.users[i] ∈
        declared.spec.realm.users.mapIdx fun i user =>
          declared.userPlan kc state (passwords i) user := List.mem_mapIdx.2 ⟨i, bound, rfl⟩
    rw [userPlan, if_neg (by simp [lacks])] at own
    exact ⟨_, List.mem_flatten.2 ⟨_, own, List.mem_singleton_self _⟩⟩
  obtain ⟨msg, planned⟩ := planned
  refine ⟨passwords i, msg, ?_⟩
  rw [plan, if_neg (by simp [live])]
  simp only [List.mem_append]
  exact .inl (.inl (.inl (.inr planned)))

/-- Where the realm is missing the plan creates it as it is declared, once. -/
theorem calls_createRealm_iff (live : declared.isTombstoned = false) (missing : state.realm = none)
    {sent : Admin.Realm} :
    (∃ action ∈ declared.plan kc passwords state, action.Calls (.createRealm sent)) ↔
      sent = declared.spec.realm := by
  constructor
  · rintro ⟨action, planned, called⟩
    rcases calls_of_mem_plan live planned called with same | same | ⟨-, _, _, same⟩ | same | same
    all_goals cases same
    rfl
  · rintro rfl
    obtain ⟨setup, rest, plan_eq, -, -⟩ := plan_of_missing live kc passwords missing
    rw [plan_eq]
    exact ⟨_, List.mem_cons_of_mem _ List.mem_cons_self, rfl⟩

/-- A secret that is planned is one for a user of its key. -/
theorem fresh_of_createsSecret {key : ObjectKey} {secret : Secret}
    (creates : Plan.CreatesSecret (declared.plan kc passwords state) key secret) :
    ∃ user ∈ declared.spec.realm.users, UserSecret.key declared user kc = key ∧
      ∃ password, secret = UserSecret.fresh declared user kc password := by
  obtain ⟨rfl, msg, planned⟩ := creates
  rcases create_or_needsKeycloak_of_mem_plan planned with ⟨user, mem, password, _, same⟩ | impossible
  · cases same
    exact ⟨user, mem, rfl, password, rfl⟩
  · cases impossible

/-- For a realm that is new, with users whose secrets are called differently, a secret is created for
each user, and the password in it opens the account in the realm that is sent to the installation just
if the user declares a password. -/
theorem handed_out_password_opens_account_iff (live : declared.isTombstoned = false)
    (distinct : (declared.spec.realm.users.map fun user =>
      UserSecret.key declared user kc).Nodup)
    (missing : state.realm = none)
    (blank : ∀ user ∈ declared.spec.realm.users, state.hasUserSecret user.username = false)
    (passwords : Nat → String) :
    ∃ sent : Admin.Realm,
      (∀ realm, (∃ action ∈ declared.plan kc passwords state, action.Calls (.createRealm realm)) ↔
        realm = sent) ∧
      ∀ user ∈ declared.spec.realm.users,
        (∃ secret, Plan.CreatesSecret (declared.plan kc passwords state)
          (UserSecret.key declared user kc) secret) ∧
        ∀ secret, Plan.CreatesSecret (declared.plan kc passwords state)
            (UserSecret.key declared user kc) secret →
          ∃ password, secret.data.bind (·.get? "password") = some (Utf8.encode password) ∧
            ((∃ account ∈ sent.users, account.username = user.username ∧
                account.LogsInWith password) ↔
              ∃ own, user.LogsInWith own) := by
  refine ⟨declared.spec.realm, fun _ => calls_createRealm_iff live missing, fun user declares => ?_⟩
  have of_key : ∀ other ∈ declared.spec.realm.users,
      UserSecret.key declared other kc = UserSecret.key declared user kc → other = user :=
    fun other mem same => List.inj_on_of_nodup_map distinct mem declares same
  refine ⟨?_, fun secret creates => ?_⟩
  · obtain ⟨password, msg, planned⟩ := create_mem_plan live declares (blank user declares)
    exact ⟨_, UserSecret.key_fresh _ _ _ _, msg, planned⟩
  obtain ⟨other, mem, same_key, made, rfl⟩ := fresh_of_createsSecret creates
  obtain rfl := of_key other mem same_key
  refine ⟨other.password?.getD made, ?_, ?_⟩
  · rw [UserSecret.data_fresh, if_pos rfl]
  constructor
  -- The name of a user picks his key, so the account of his name is his own.
  · rintro ⟨account, sent, same_name, logs_in⟩
    have same_key : UserSecret.key declared account kc = UserSecret.key declared other kc := by
      rw [UserSecret.key, UserSecret.key, same_name]
    obtain rfl := of_key account sent same_key
    exact ⟨_, logs_in⟩
  · rintro ⟨own, logs_in⟩
    obtain ⟨password, declares⟩ := Option.isSome_iff_exists.1 logs_in.isSome_password?
    refine ⟨other, mem, rfl, ?_⟩
    rw [declares, Option.getD_some]
    exact Admin.User.logsInWith_of_password? declares

/-- A user with a password. -/
def alice : Admin.User where
  username := "alice"
  credentials := [{ credentialType := "password", value := "secret" }]

/-- A user without one. -/
def guest : Admin.User where
  username := "guest"

def guestRealm : KeycloakRealm where
  metadata := { name := some "basic" }
  spec := { realm := { realm := "basic", users := [alice, guest] } }

/-- The plan for the realm of the two where there is nothing yet. -/
def guestPlan : Plan := guestRealm.plan {} (fun _ => "made") {}

/-- Of the two secrets that are handed out, one opens the account of its user and the other one does
not. -/
theorem handed_out_password_opens_first_account :
    ∃ sent, (∃ action ∈ guestPlan, action.Calls (.createRealm sent)) ∧
      (∃ secret, guestPlan.CreatesSecret ⟨"credential-basic-alice-default", "default"⟩ secret ∧
        ∃ password, secret.data.bind (·.get? "password") = some (Utf8.encode password) ∧
          ∃ account ∈ sent.users, account.username = "alice" ∧ account.LogsInWith password) ∧
      ∃ secret, guestPlan.CreatesSecret ⟨"credential-basic-guest-default", "default"⟩ secret ∧
        ∃ password, secret.data.bind (·.get? "password") = some (Utf8.encode password) ∧
          ¬ ∃ account ∈ sent.users, account.username = "guest" ∧ account.LogsInWith password := by
  have live : guestRealm.isTombstoned = false := rfl
  have distinct : (guestRealm.spec.realm.users.map fun user =>
      UserSecret.key guestRealm user {}).Nodup := by decide
  have missing : ({} : RealmSnapshot).realm = none := rfl
  obtain ⟨sent, sent_iff, each⟩ := handed_out_password_opens_account_iff live distinct missing
    (fun _ _ => rfl) (fun _ => "made")
  obtain ⟨⟨first, for_alice⟩, first_opens⟩ := each alice List.mem_cons_self
  obtain ⟨password, stored, opens_iff⟩ := first_opens first for_alice
  obtain ⟨⟨second, for_guest⟩, second_opens⟩ :=
    each guest (List.mem_cons_of_mem _ List.mem_cons_self)
  obtain ⟨made, stored_too, opens_too_iff⟩ := second_opens second for_guest
  have alice_key : UserSecret.key guestRealm alice {} =
      ⟨"credential-basic-alice-default", "default"⟩ := by decide
  have guest_key : UserSecret.key guestRealm guest {} =
      ⟨"credential-basic-guest-default", "default"⟩ := by decide
  rw [alice_key] at for_alice
  rw [guest_key] at for_guest
  have opened := opens_iff.2 ⟨"secret", Admin.User.logsInWith_of_password? rfl⟩
  have shut : ¬ ∃ own, guest.LogsInWith own := by
    rintro ⟨own, credential, impossible, -⟩
    cases impossible
  exact ⟨sent, (sent_iff sent).2 rfl, ⟨first, for_alice, password, stored, opened⟩, second, for_guest,
    made, stored_too, fun opens => shut (opens_too_iff.1 opens)⟩

/-- A password that has been made for a user opens no account. -/
theorem handed_out_password_opens_no_account :
    ¬ ∀ (declared : KeycloakRealm) (kc : Keycloak) (state : RealmSnapshot) (passwords : Nat → String),
      declared.isTombstoned = false →
      (declared.spec.realm.users.map fun user => UserSecret.key declared user kc).Nodup →
      state.realm = none →
      (∀ user ∈ declared.spec.realm.users, state.hasUserSecret user.username = false) →
      ∀ user ∈ declared.spec.realm.users, ∀ secret,
        Plan.CreatesSecret (declared.plan kc passwords state) (UserSecret.key declared user kc)
          secret →
        ∃ password, secret.data.bind (·.get? "password") = some (Utf8.encode password) ∧
          ∃ sent, (∃ action ∈ declared.plan kc passwords state,
              action.Calls (.createRealm sent)) ∧
            ∃ account ∈ sent.users, account.username = user.username ∧
              account.LogsInWith password := by
  intro opens
  have live : guestRealm.isTombstoned = false := rfl
  have declares : guest ∈ guestRealm.spec.realm.users :=
    List.mem_cons_of_mem _ List.mem_cons_self
  obtain ⟨made, msg, planned⟩ : ∃ password msg,
      .create ⟨.secret, UserSecret.fresh guestRealm guest {} password⟩ msg ∈ guestPlan :=
    create_mem_plan live declares rfl
  obtain ⟨password, -, sent, sent_it, account, mem, same_name, logs_in⟩ :=
    opens guestRealm {} {} (fun _ => "made") live (by decide) rfl (fun _ _ => rfl) guest declares _
      ⟨rfl, msg, planned⟩
  obtain rfl := (calls_createRealm_iff live rfl).1 sent_it
  simp only [guestRealm, List.mem_cons, List.not_mem_nil, or_false] at mem
  rcases mem with rfl | rfl
  · exact absurd same_name (by decide)
  · obtain ⟨credential, impossible, -⟩ := logs_in
    cases impossible

end KeycloakRealm

end IdentityOperator
