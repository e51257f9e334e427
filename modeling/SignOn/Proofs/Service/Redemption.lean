import SignOn.Proofs.Service.Exchange

/-!
# How a redemption ends

A code that is not exchanged is refused.  Any other loses its identity at once, and what comes of
that is settled by the table of nonces: `Settles` goes through what the table can be like.
-/

namespace SignOn.Service

variable {code : Text} {state : State}

/-- What comes of an identity that is taken, and of the table that its nonce should be in. -/
inductive Settles (table : Nonce.Table) (identity : Identity) :
    Except Failure Text → Nonce.Table → Prop
  | released (hread : table.hidden = false) (hstored : (table.row? identity.nonce).isSome)
      (hdeletes : table.deletesFail = false) :
      Settles table identity (.ok identity.refreshToken)
        { table with rows := table.rows.filter fun row => row.nonce ≠ identity.nonce }
  | unknown {bytes : Bytes} (hread : table.hidden = false)
      (hnone : table.row? identity.nonce = none)
      (hbytes : Utf8.encodeStrict identity.nonce = .ok bytes) :
      Settles table identity (.error (.refused .nonceUnknown)) table
  | unreadable (hhidden : table.hidden = true) :
      Settles table identity (.error (.refused .nonceNotRead)) table
  | undeletable (hread : table.hidden = false) (hstored : (table.row? identity.nonce).isSome)
      (hfails : table.deletesFail = true) :
      Settles table identity (.error (.refused .nonceNotDeleted)) table
  /-- A nonce without a form that could be stored is in no table and interrupts the call. -/
  | formless {fault : Codec.EncodeFault} (hread : table.hidden = false)
      (hnone : table.row? identity.nonce = none)
      (hfault : Utf8.encodeStrict identity.nonce = .error fault) :
      Settles table identity (.error (.interrupted (.nonce fault))) table

def withdrawn (state : State) (code : Text) : State :=
  { state with cache := (state.timed.taken code).cache }

inductive Redeems (code : Text) (state : State) : Except Failure Text × State → Prop
  | initiated (hphase : state.phase code = .initiated) :
      Redeems code state (.error (.refused .codeNotExchanged), state)
  | redeemed (hphase : state.phase code = .redeemed) :
      Redeems code state (.error (.refused .codeRedeemed), state)
  | settled {entry : Cache.Entry Identity} {result : Except Failure Text} {table : Nonce.Table}
      (hentry : state.timed.identity? code = some entry)
      (hsettles : Settles state.table entry.value result table) :
      Redeems code state (result, { withdrawn state code with table })

theorem take_of_identity? {entry : Cache.Entry Identity}
    (h : state.timed.identity? code = some entry) :
    state.cache.take state.clock state.clock code =
      (.ok entry.value, (state.timed.taken code).cache) := by
  have hphase : state.cache.phase state.clock code = .exchanged :=
    isSome_identity?_iff.mp (Option.isSome_iff_exists.mpr ⟨entry, h⟩)
  have hremove : state.cache.identities.remove state.clock code =
      (some entry.value, (state.cache.identities.remove state.clock code).2) := by
    rw [Cache.Shelf.remove, show state.cache.identities.live? state.clock code = _ from h]
  rw [Cache.take, hphase]
  dsimp only
  rw [hremove]
  rfl

theorem take_of_ne (h : state.phase code ≠ .exchanged) :
    state.cache.take state.clock state.clock code =
      (.error (if state.phase code = .redeemed then .alreadyRedeemed else .notExchanged),
        state.cache) := by
  rw [Cache.take, State.phase]
  cases hphase : state.cache.phase state.clock code with
  | initiated => rfl
  | redeemed => rfl
  | exchanged => exact absurd hphase h

theorem redeems_settled (hrows : state.table.IsEncodable) {entry : Cache.Entry Identity}
    (hentry : state.timed.identity? code = some entry) :
    Redeems code state ((redeem code).run state) := by
  rw [redeem, Flow.run_bind, Flow.run_take, take_of_identity? hentry]
  change Redeems code state
    ((Flow.ofChecked _ (state.table.find entry.value.nonce) >>= _).run (withdrawn state code))
  rw [Flow.run_bind, Flow.run_ofChecked]
  cases hhidden : state.table.hidden with
  | true =>
      rw [Nonce.Table.find_of_hidden hhidden]
      exact .settled hentry (.unreadable hhidden)
  | false =>
      cases hencode : Utf8.encodeStrict entry.value.nonce with
      | error fault =>
          have hnone : state.table.row? entry.value.nonce = none := by
            refine Option.eq_none_iff_forall_ne_some.mpr fun row hrow => ?_
            obtain ⟨bytes, hbytes⟩ := hrows.of_row? hrow
            cases hencode.symm.trans hbytes
          rw [Nonce.Table.find_of_fault hhidden hencode]
          exact .settled hentry (.formless hhidden hnone hencode)
      | ok bytes =>
          rw [Nonce.Table.find_of_bytes hhidden hencode]
          cases hrow : state.table.row? entry.value.nonce with
          | none => exact .settled hentry (.unknown hhidden hrow hencode)
          | some row =>
              have hstored : (state.table.row? entry.value.nonce).isSome := by rw [hrow]; rfl
              change Redeems code state
                ((if (State.deleteNonce (withdrawn state code) row).1 then _ else _ : Flow Text).run
                  (State.deleteNonce (withdrawn state code) row).2)
              rw [State.deleteNonce, Nonce.Table.nonce_of_row? hrow,
                show (withdrawn state code).table = state.table from rfl,
                Nonce.Table.delete?_of_row? hhidden hrow]
              by_cases hfails : state.table.deletesFail = true
              · rw [if_pos hfails]
                exact .settled hentry (.undeletable hhidden hstored hfails)
              · rw [if_neg hfails]
                exact .settled hentry (.released hhidden hstored (Bool.eq_false_iff.mpr hfails))

theorem redeems (hrows : state.table.IsEncodable) (code : Text) :
    Redeems code state ((redeem code).run state) := by
  cases hphase : state.phase code with
  | initiated =>
      rw [redeem, Flow.run_bind, Flow.run_take, take_of_ne (by simp [hphase]), hphase]
      exact .initiated hphase
  | redeemed =>
      rw [redeem, Flow.run_bind, Flow.run_take, take_of_ne (by simp [hphase]), hphase]
      exact .redeemed hphase
  | exchanged =>
      obtain ⟨entry, hentry⟩ := Option.isSome_iff_exists.mp (isSome_identity?_iff.mpr hphase)
      exact redeems_settled hrows hentry

end SignOn.Service
