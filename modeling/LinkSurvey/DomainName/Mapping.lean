import LinkSurvey.Text.Canonical

/-!
What becomes of each character of a domain name before its labels are looked at: it is kept, dropped,
replaced by others (letter case, width and other variants), or it makes the name invalid.
-/

namespace LinkSurvey.DomainName

open Text

inductive Status where
  | valid
  | ignored
  | mapped (image : List Char)
  | disallowed

def validTable : Array (Nat × Nat) := Packed.intervals [
    "AgCakBhBGBABBBABBEBDADAXAHgBBABABABABABABABABABABABABABABABABABABABABABABABABADABBBABABADABABABA",
    "CABABABABABABABABABABABABABABABABABABABABABABACABABABACABACADBEACADCCACABABACABBBACADABACCBGKABA",
    "BABABABABABBBABABABABABABABABBEADABABABABABABABABABABABABABABABABABABABABABABABABABABABABABGCACB",
    "BAEABABABABgDJeGBF6CCADIBfBABABABADCSAbiBIABABABABABABABABABABABABADACABACBzBvBBABABABABABABABAB",
    "ABABABABABABABABIBABABABABABABABABABABABABABABABABABABABABABABABABABABACABABABABABABBBABABABABAB",
    "ABABABABABABABABABABABABABABABABABABABABABABABABABABABABABABABABABABABABABABABABABABApBtBBCCCB2B",
    "IaEFRVB3CEjDBvBC6BCkDO6BCwBCOBbCABKFfHqCB0DIjBBHCBCVBGBADDCICBCDIAIDCYCCBFEBCVBGBACACBCABEEBCCDA",
    "KAJQKCBIBCBVBGBBBECJBCBCCAPDCLHGBCBHCBCVBGBBBECICBCCHCHECRKBBFDCBDDBBABBDBDCDLEEDCBDCAGAOUFMBCBW",
    "BPCIBCBDHBBCBBCDCJHVBCBWBJBECIBCBDHBFCBDCJBCMMBCByBBCBFEPCZBCBRDXBIBACGDAEFBABHGJCCMxBBGEclBBBAB",
    "EBXBABLBJCEBABGBJEBgBLB1BBDBDBDBDBDBLBCEBBAFGBQBDBDBDBDBDBLBCBOBMlB/EwBrBBhDCnHBDCGBABDCoBBDCgBB",
    "DCGBABDCOB4BBDCiCCfDZG1CK/TBbD4CHVJXJTMMBCBBMzBCnBCJGJGKFJG4CHqBFlCKeBLELEADpBCELrBEZGKD9BCgCBcC",
    "KGJGNCtBCLUsCBlFI7BDODyBKA1BHIqBFrBDALASAcMBhBlB/BBABABABABABABABABABABABABABABABABABABABABABABA",
    "BABABABABABABABABABABABABABABABABABABABABABABABABABABABABABABABABABABABABABABABABABABABABABABABA",
    "BABABABECBBABABABABABABABABABABABABABABABABABABABABABABABABABABABABABABABABABABABABABABABABABABA",
    "BABABABABABIIFKHIHIFKHIHIABABABABABABAzBBEAPAJCDBICBDOAVBCABEBLDAICCACDBABHDMBGhCHBYOgBTADALACBF",
    "BDABABABAEALAGDFFwBCBEBBE7ECAC3HC+HWKgFgpBBmDDkDB2ECpEwBvBBADBBABABAEABBBFFABABABABABABABABABABA",
    "BABABABABABABABABABABABABABABABABABABABABABABABABABABABABABABABABABABABABABABHBABDBAFsBBAFAC3BIA",
    "OXJGBGBGBGBGBGBGBGB9DiBZBDByCuIAByBBADEB1CCBCBB+CGqBgDBOlCKPoCHvBAgMskcD2BJ7KVABABABABABABABABAB",
    "ABABABABABABABABABABABABABSBABABABABABABABABABABABABABAC5CIhBBABABABABABABCBABABABABABABABABABAB",
    "ABABABABABABABABABABABABABABABABABABABABABHBABACABABABABDBABBBABCBABABABABABABABABABAFAFABABABAB",
    "ABABABAEABACABABABABABABABAaBCyBDJG3BIlCILGzDLdDtCBKEgBB2BJNCJCmDYbKFCFCFJGBGBrBEIBB0CtBCJGj9KMW",
    "EwBywIBBABBKABABBCC0HAzEgBrLRgCB2BHtBCgBPVBsBAsMLBZBSBBBOCNiB6DFCEsBD3CBMDAvBtBiEcDwBPbEjBJdFqBF",
    "dBkBENyC1DCJuBjBEnBIzBLAnBKBOBGBBDzBM2JJVKHYA/DFCABrBBBDACWBnCIIwBSBBFgBDaFamB3BETCxBBBFHBCBcCCE",
    "JHIH/BgBmBELJ1BDcCaFZHDMGwCoC3DyBHtBIJGPZcIBwGeBpBBCCBQFIIhBtBIpBWZmBbUWJtCEjBJ9BBENYHJG0BBRImBJ",
    "/CBTLRBuB+BGBABDBOBKG6BFJGDBHCBCVBGBBBEBJCBCCCAGAFGCGDELJBACABlBBJBACABDBJBBIBd7CBEenCIJmF1BClBi",
    "BkCLJGMT5BGJGTcaCOEW5F7BkEyBMHCACHBBBdBBCLJJmCHCtBCKbnCIyCNoCHJ2CH4ChBOJGIBsBBNKcDfCVBNpCGBBBrBD",
    "ABBBIIJGFBBBkBBBBFHJGrBEJ2HYHQBoBDc1CAPxBN6cmDuDBELjGsyCiDNvhBQVK68DFmS51G5Bm2B4RHeBJEwCBJGdCFKl",
    "CKJBGBUFSwN5BmH6BgBYsBqCE4BHQgCELGJ1mHpBfhDyD9vIDBGBBBiJPAdCCAODIrMkoCqDFMDIHJCDg7D1GkBCDzNGWPQP",
    "tBCWJzD8B1HKmBC0BHNI/BGpBVlC6DTMTM2CJYnkBrUPEBOwiBeGF1GGBQCGBBBEkDAwDsBDNCJEBgKeR5BFAwOpB2GqBEAg",
    "GeBVIBgHGBDBBBOBkGCPrCpBEJEBxYjCsC8ByNBuIrBEjDMOCOBOBkBVEfAgBZDiBBc4BZgDF6E4eDQDMD5GGLEAPLE3BIJG",
    "nBIdCLEBOInB3KINCMDKD4BBAEPCLEJHyEB7CKAlgB/2pBgB9oECt0FCwpHPtTitEq6EFppI"]

def ignoredTable : Array (Nat × Nat) := Packed.intervals [
    "tFAhVAvwDBzyBB1CE7/BA0CEFF0nEA7kzBPvHAgFA/nvBDvmFHl8rYvH"]

def mappedTable : Array (Nat × List Char) := Canonical.expansions [
    "hCBhDABiDABjDABkDABlDABmDABnDABoDABpDABqDABrDABsDABtDABuDABvDABwDABxDAByDABzDAB0DAB1DAB2DAB3DAB4",
    "DAB5DAB6DlCBgBHCgBoYBBhDECgBkYCByBABzBACgBhYAB8dCCgBnZABxBABvDBDxBkiI0BADxBkiIyBADzBkiI0BBBgHABh",
    "HABiHABjHABkHABlHABmHABnHABoHABpHABqHABrHABsHABtHABuHABvHABwHABxHAByHABzHAB0HAB1HAB2HBB4HAB5HAB6",
    "HAB7HAB8HAB9HAB+HhBBhIBBjIBBlIBBnIBBpIBBrIBBtIBBvIBBxIBBzIBB1IBB3IBB5IBB7IBB9IBB/IBBhJBBjJBBlJBB",
    "nJBBpJBBrJBBtJBBvJBCpDnYBCpDqDACpDqDAB1JBB3JCB6JBB8JBB+JBCsD3FACsD3FABiKBBkKBBmKBBoKBC8VuDABrKBB",
    "tKBBvKBBxKBBzKBB1KBB3KBB5KBB7KBB9KBB/KBBhLBBjLBBlLBBnLBBpLBBrLBBtLBBvLBBxLBBzLBB1LBB3LBB/HAB6LBB",
    "8LBB+LBBzDBBzSABjMBBlMBB0SABoMBB2SAB3SABsMCB9OAB5SAB7SAByMBBgTABjTBBpTABoTAB5MDBvTAByTBB1TABhNBB",
    "jNBBlNBBgUABoNBBjUCBtNBBoUABwNBBqUABrUAB0NBB2NBByUAB5NDB9NHCkD+LACkD+LACkD+LACsDqDACsDqDACsDqDAC",
    "uDqDACuDqDACuDqDABuOBBwOBByOBB0OBB2OBB4OBB6OBB8OCB/OBBhPBBjPBBlPBBnPBBpPBBrPBBtPBBvPCCkD6DACkD6D",
    "ACkD6DAB1PBB1MAB/NAB5PBB7PBB9PBB/PBBhQBBjQBBlQBBnQBBpQBBrQBBtQBBvQBBxQBBzQBB1QBB3QBB5QBB7QBB9QBB",
    "/QBB+MBBjRBBlRBBnRBBpRBBrRBBtRBBvRBBxRBBzRHBljLAB8RBB6MABmjLCBiSBBgMABpUABsUABnSBBpSBBrSBBtSBBvS",
    "hDBoDABmTABqDAByDAB5TAB7TABhUAB3DAB5DfCgBmYACgBnYACgBqYACgBoZACgBjYACgBrYCBjTABsDABzDAB4DAB1U7CB",
    "gYABhYBBzYACoYhYAB5dqBBxbBBzbBB5VBB3bDCgB5dDB7BABzfECgBhYADgBoYhYABsdAB3FABtdABudABvdBBseBBteABu",
    "eBBxdABydABzdAB0dAB1dAB2dAB3dAB4dAB5dAB6dAB7dAB8dAB9dAB+dAB/dABgeABheBBjeABkeABleABmeABneABoeABp",
    "eABqeABrejBB3eABydAB4dABleABteABreABmeABgeBB5eBB7eBB9eBB/eBBhfBBjfBBlfBBnfBBpfBBrfBBtfBBvfBB6dAB",
    "heABjeBB4dAB1dBB4fBBjeAB7fCB7bAB8bAB9bABwiBABxiBAByiBABziBAB0iBAB1iBAB2iBAB3iBAB4iBAB5iBAB6iBAB7",
    "iBAB8iBAB9iBAB+iBAB/iBABwhBABxhBAByhBABzhBAB0hBAB1hBAB2hBAB3hBAB4hBAB5hBAB6hBAB7hBAB8hBAB9hBAB+h",
    "BAB/hBABgiBABhiBABiiBABjiBABkiBABliBABmiBABniBABoiBABpiBABqiBABriBABsiBABtiBABuiBABviBwBBhjBBBjj",
    "BBBljBBBnjBBBpjBBBrjBBBtjBBBvjBBBxjBBBzjBBB1jBBB3jBBB5jBBB7jBBB9jBBB/jBBBhkBJBrkBBBtkBBBvkBBBxkB",
    "BBzkBBB1kBBB3kBBB5kBBB7kBBB9kBBB/kBBBhlBBBjlBBBllBBBnlBBBplBBBrlBBBtlBBBvlBBBxlBBBzlBBB1lBBB3lBB",
    "B5lBBB7lBBB9lBBB/lBBBvmBABimBBBkmBBBmmBBBomBBBqmBBBsmBBBumBCBxmBBBzmBBB1mBBB3mBBB5mBBB7mBBB9mBBB",
    "/mBBBhnBBBjnBBBlnBBBnnBBBpnBBBrnBBBtnBBBvnBBBxnBBBznBBB1nBBB3nBBB5nBBB7nBBB9nBBB/nBBBhoBBBjoBBBl",
    "oBBBnoBBBpoBBBroBBBtoBBBvoBBBxoBBBzoBBB1oBBB3oBBB5oBBB7oBBB9oBBB/oBBBhpBBBjpBBBlpBBBnpBBBppBBBrp",
    "BBBtpBBBvpBCBhrBABirBABjrBABkrBABlrBABmrBABnrBABorBABprBABqrBABrrBABsrBABtrBABurBABvrBABwrBABxrB",
    "AByrBABzrBAB0rBAB1rBAB2rBAB3rBAB4rBAB5rBAB6rBAB7rBAB8rBAB9rBAB+rBAB/rBABgsBABhsBABisBABjsBABksBA",
    "BlsBABmsBwBClrBisBtHCnxB0zBACoyB0zBACn2B0zBACqyB0zB/WC1oC8pCAC2oC8pCAC3oC8pCAC8oC8pCAChpC8pCACip",
    "C8pCACrpC8pCACvpC8pC8DChtC8tCACitC8tCBCvtC8tCzCCyxC8xCCC4xC8xCiBC2wC8xCAC3wC8xCAC8wC8xCCCrxC8xC9",
    "HCh5C85CACi5C85C1WCtyDyxD/DCt2Dy1DoBCr1D50DACr1Dh1DuBBr4D2BCi6D39DJCs6D39DECx6D39DEC26D39DEC76D3",
    "9DMCg6D19DJCx7Dy7DBCx7D07DACy9Dg8DADy9Dx7Dg8DACz9Dg8DADz9Dx7Dg8DHCx7Dg8DRCy8D39DJC88D39DECh9D39D",
    "ECm9D39DECr9D39DMCw8D19DmHBgoLABhoLABioLABjoLABkoLABloLABmoLABnoLABooLABpoLABqoLABroLABsoLABtoLA",
    "BuoLABvoLABwoLABxoLAByoLABzoLAB0oLAB1oLAB2oLAB3oLAB4oLAB5oLAB6oLAB7oLAB8oLAB9oLAB+oLAB/oLABgpLAB",
    "hpLABipLABjpLABkpLABlpLBBnpLFBtpLuBB8mE7XBw/EABx/EABy/EABz/EAB0/EAB1/EikCByhBAB0hBAB+hBABhiBABii",
    "BABiiBABqiBABjjBABrypBABqkHGBwmEABxmEABymEABzmEAB0mEAB1mEAB2mEAB3mEAB4mEAB5mEAB6mEAB7mEAB8mEAB9m",
    "EAB+mEAB/mEABgnEABhnEABinEABjnEABknEABlnEABmnEABnnEABonEABpnEABqnEABrnEABsnEABtnEABunEABvnEABwnE",
    "ABxnEABynEABznEAB0nEAB1nEAB2nEAB3nEAB4nEAB5nEAB6nECB9nEAB+nEAB/nEsDBhDABmHABiDBBkDABlDAB9OABnDAB",
    "oDABpDABqDABrDABsDABtDABuDBBvDABjRABwDAByDAB0DAB1DAB3DABhDABwSABxSABioHABiDABkDABlDAB5SAB7SAB8SA",
    "BnDBBrDABtDABrKABvDAB0SAB2oHAB3oHABwDAB0DAB1DAB9oHABvTAB2DABlpHABydABzdAB0dABmeABneABpDAByDAB1DA",
    "B2DABydABzdABheABmeABneNB9hBiBBySABjDAB1SABwHAB8SABmDAB/SABhTABlTABoTABpTABqTAB7rHAB9UABtTABlsHA",
    "B/UABxTABwTAByTABzTAB0TAB1TAB4TABiUABjUABrNABpUABqUAB8oHABrUABsUAB6DABwUABxUAByUAB4dgCBhwHBBjwHB",
    "BlwHBBnwHBBpwHBBrwHBBtwHBBvwHBBxwHBBzwHBB1wHBB3wHBB5wHBB7wHBB9wHBB/wHBBhxHBBjxHBBlxHBBnxHBBpxHBB",
    "rxHBBtxHBBvxHBBxxHBBzxHBB1xHBB3xHBB5xHBB7xHBB9xHBB/xHBBhyHBBjyHBBlyHBBnyHBBpyHBBryHBBtyHBBvyHBBx",
    "yHBBzyHBB1yHBB3yHBB5yHBB7yHBB9yHBB/yHBBhzHBBjzHBBlzHBBnzHBBpzHBBrzHBBtzHBBvzHBBxzHBBzzHBB1zHBB3z",
    "HBB5zHBB7zHBB9zHBB/zHBBh0HBBj0HBBl0HBBn0HBBp0HBBr0HBBt0HBBv0HBBx0HBBz0HBB10HFChD+VABhzHCB/GBBh1H",
    "BBj1HBBl1HBBn1HBBp1HBBr1HBBt1HBBv1HBBx1HBBz1HBB11HBB31HBB51HBB71HBB91HBB/1HBBh2HBBj2HBBl2HBBn2HB",
    "Bp2HBBr2HBBt2HBBv2HBBx2HBBz2HBB12HBB32HBB52HBB72HBB92HBB/2HBBh3HBBj3HBBl3HBBn3HBBp3HBBr3HBBt3HBB",
    "v3HBBx3HBBz3HBB13HBB33HBB53HBB73HBB93HBB/3HJBg4HABh4HABi4HABj4HABk4HABl4HABm4HABn4HIBw4HABx4HABy",
    "4HABz4HAB04HAB14HKBg5HABh5HABi5HABj5HABk5HABl5HABm5HABn5HIBw5HABx5HABy5HABz5HAB05HAB15HAB25HAB35",
    "HIBg6HABh6HABi6HABj6HABk6HABl6HLBx6HBBz6HBB16HBB36HIBg7HABh7HABi7HABj7HABk7HABl7HABm7HABn7HBBsdB",
    "BtdBBudBBvdBBseBBteBBueCCg4H5dACh4H5dACi4H5dACj4H5dACk4H5dACl4H5dACm4H5dACn4H5dACg4H5dACh4H5dACi",
    "4H5dACj4H5dACk4H5dACl4H5dACm4H5dACn4H5dACg5H5dACh5H5dACi5H5dACj5H5dACk5H5dACl5H5dACm5H5dACn5H5dA",
    "Cg5H5dACh5H5dACi5H5dACj5H5dACk5H5dACl5H5dACm5H5dACn5H5dACg7H5dACh7H5dACi7H5dACj7H5dACk7H5dACl7H5",
    "dACm7H5dACn7H5dACg7H5dACh7H5dACi7H5dACj7H5dACk7H5dACl7H5dACm7H5dACn7H5dCCw7H5dACxd5dACsd5dCC29H5",
    "dABw9HABx9HABw7HABsdACxd5dACgBzYAB5dACgBzYACgBiaADgBoYiaAC07H5dAC3d5dACud5dCCm+H5dABy7HABtdAB07H",
    "ABudAC3d5dADgBzYgYADgBzYhYADgBzYiaDBwcEBw+HABx+HAB27HABvdBDgB0YgYADgB0YhYADgB0YiaDBwdEBg/HABh/HA",
    "B67HABteABl/HADgBoYgYADgBoYhYABgDCC87H5dACpe5dACue5dCC2/H5dAB47HABseAB87HABueACpe5dACgBhYACgB0YB",
    "BgBABgBABgBABgBABgBABgBABgBABgBABgBABgBABgBGBwgIFCgBzZXBgBDCyhIyhIADyhIyhIyhIBC1hI1hIAD1hI1hI1hI",
    "EChBhBBCgBlYIC/B/BAC/BhBAChB/BNEyhIyhIyhIyhIHBgBQBwBABpDCB0BAB1BAB2BAB3BAB4BAB5BABrBABywIAB9BABo",
    "BABpBABuDABwBABxBAByBABzBAB0BAB1BAB2BAB3BAB4BAB5BABrBABywIAB9BABoBABpBBBhDABlDABvDAB4DAB5SABoDAB",
    "rDABsDABtDABuDABwDABzDAB0DLCyDzD3CDhDvBjDADhDvBzDABjDACwFjDBDjDvBvDADjDvB1DAB7SBCwFmDABnDABoDABo",
    "DABoDABoDABnJABpDABpDABsDABsDBBuDACuDvDCBwDABxDAByDAByDAByDCCzDtDAD0DlDsDAC0DtDBB6DBBpeBB6DBBrDA",
    "BlHABiDABjDBBlDABlDABmDABuqIABtDABvDABwuBABxuBAByuBABzuBABpDBDmDhD4DABgeABzdABzdABgeABxwIEBkDABk",
    "DABlDABpDABqDGDxBkiI3BADxBkiI5BAExBkiIxBwBADxBkiIzBADyBkiIzBADxBkiI1BADyBkiI1BADzBkiI1BAD0BkiI1B",
    "ADxBkiI2BAD1BkiI2BADxBkiI4BADzBkiI4BAD1BkiI4BAD3BkiI4BACxBkiIABpDACpDpDADpDpDpDACpD2DAB2DAC2DpDA",
    "D2DpDpDAE2DpDpDpDACpD4DAB4DAC4DpDAD4DpDpDABsDABjDABkDABtDABpDACpDpDADpDpDpDACpD2DAB2DAC2DpDAD2Dp",
    "DpDAE2DpDpDpDACpD4DAB4DAC4DpDAD4DpDpDABsDABjDABkDABtDDBksIFDwBkiIzBiFCrxIrxIADrxIrxIrxIBCuxIuxIA",
    "DuxIuxIuxI4HBogMABpgM1JBxBAByBABzBAB0BAB1BAB2BAB3BAB4BAB5BACxBwBACxBxBACxByBACxBzBACxB0BACxB1BAC",
    "xB2BACxB3BACxB4BACxB5BACyBwBADoBxBpBADoByBpBADoBzBpBADoB0BpBADoB1BpBADoB2BpBADoB3BpBADoB4BpBADoB",
    "5BpBAEoBxBwBpBAEoBxBxBpBAEoBxByBpBAEoBxBzBpBAEoBxB0BpBAEoBxB1BpBAEoBxB2BpBAEoBxB3BpBAEoBxB4BpBAE",
    "oBxB5BpBAEoByBwBpBUDoBhDpBADoBiDpBADoBjDpBADoBkDpBADoBlDpBADoBmDpBADoBnDpBADoBoDpBADoBpDpBADoBqD",
    "pBADoBrDpBADoBsDpBADoBtDpBADoBuDpBADoBvDpBADoBwDpBADoBxDpBADoByDpBADoBzDpBADoB0DpBADoB1DpBADoB2D",
    "pBADoB3DpBADoB4DpBADoB5DpBADoB6DpBABhDABiDABjDABkDABlDABmDABnDABoDABpDABqDABrDABsDABtDABuDABvDAB",
    "wDABxDAByDABzDAB0DAB1DAB2DAB3DAB4DAB5DAB6DABhDABiDABjDABkDABlDABmDABnDABoDABpDABqDABrDABsDABtDAB",
    "uDABvDABwDABxDAByDABzDAB0DAB1DAB2DAB3DAB4DAB5DAB6DABwBhpBErxIrxIrxIrxInDD6B6B9BAC9B9BAD9B9B9BlDC",
    "92K4ZjJBwhLABxhLAByhLABzhLAB0hLAB1hLAB2hLAB3hLAB4hLAB5hLAB6hLAB7hLAB8hLAB9hLAB+hLAB/hLABgiLABhiL",
    "ABiiLABjiLABkiLABliLABmiLABniLABoiLABpiLABqiLABriLABsiLABtiLABuiLABviLABwiLABxiLAByiLABziLAB0iLA",
    "B1iLAB2iLAB3iLAB4iLAB5iLAB6iLAB7iLAB8iLAB9iLAB+iLAB/iLwBBhjLBBrTAB9rHAB9TCBojLBBqjLBBsjLBBxSABxT",
    "ABwSABySBBzjLCB2jLGBqDAB2DAB/RABgSABhkLBBjkLBBlkLBBnkLBBpkLBBrkLBBtkLBBvkLBBxkLBBzkLBB1kLBB3kLBB",
    "5kLBB7kLBB9kLBB/kLBBhlLBBjlLBBllLBBnlLBBplLBBrlLBBtlLBBvlLBBxlLBBzlLBB1lLBB3lLBB5lLBB7lLBB9lLBB/",
    "lLBBhmLBBjmLBBlmLBBnmLBBpmLBBrmLBBtmLBBvmLBBxmLBBzmLBB1mLBB3mLBB5mLBB7mLBB9mLBB/mLBBhnLBBjnLIBsn",
    "LBBunLEBznL8DBhrLvJBt+azCB/8nBMBgwTABoxTAB2xTAB/xTAB5yTABl0TABs0TABg1TAB61TAB/pUABlrUABrrUABisUA",
    "B2sUABrtUABgvUAB1vUABgwUAB70UAB53UAB14UAB64UAB45UABh6UAB86UABp7UABi8UAB29UABo+UABj/UAB32VAB/4VAB",
    "rnWABioWABqoWAB1oWABnpWABzrWABw6WABg8WAB4/WABvgXABihXAB4hXABujXABxjXAB7uXABlvXABxvXAB+vXAByzXAB6",
    "zXAB/zXAB03XAB+3XABr4XABz4XABw6XABh7XABz7XABj+XABowYAB2xYABryYABvpZAB0pZABnsZAB3sZABktZAB5tZABgv",
    "ZABlvZABw3ZABo4ZABo5ZABg5aABi7aAB57aABz9aABr+aAB0+aAB7+aABvgbAB0gbAB0hbABrjcABqxcAB2xcAB7xcAB/xc",
    "ABnycAB5ycAB7ycABs1cABk8cABp8cAB8mdABmndAB4odAB/odABopdABwpdABrsdABysdAB2zdAB9zdABu1dAB/1dABu3dA",
    "B7+dABi/dABz/dAB6peAB4teAB+teAB0zeABr2eAB53eABzjfAB4nfAB25fABx6fABq8fAB99fABhggBABsggBAByggBABzh",
    "gBAB/jgBABpkgBABjvgBABqvgBABzvgBAB8vgBABswgBAB7wgBAB/wgBABuzgBAByzgBAB4zgBABtyhBABrzhBABgiiBABsi",
    "iBABjjiBAB+riBABrsiBAByuiBABgwiBAB3hjBABmijBAB1ijBAB4jjBAB9kjBABkrjBABwrjBABztjBABr1jBABq2jBAB78",
    "jBABw9jBAB19jBABxkkBABpqkBABmukBABsukBABxukBAB3rlBABgslBAB8wlBAB21lBAB51lBABo3lBABx6lBAB+6lBABi7",
    "lBABp7lBABr+lBABt/lBABz/lBABhgmBABolmBAB7mmBAB/mmBAB2smBAB5smBABstmBABo1mBAB42mBAB/2mBABl5mBABv5",
    "mBABy5mBAB85mBAB66mBABlnnBAB1znBAB/znBABl1nBAB71nBABj2nBABt2nBABx2nBAB53nBAB93nBABu4nBABz4nBABg5",
    "nBAB75nBABq6nBABy6nBABt8nBAB88nBABg9nBqBBgBBBuBzBBygMBBh6UABk6UABl6UgDCgB5kMACgB6kMCCokMqkM/CCzl",
    "MomMxBBgoEABhoEABqtEABioEABstEABttEABjoEABkoEABloEABwtEABxtEABytEABztEAB0tEAB1tEAB6oEABmoEABnoEA",
    "BooEABhpEABpoEABqoEABroEABsoEABtoEABuoEABvoEABwoEABxoEAByoEABhrEABirEABjrEABkrEABlrEABmrEABnrEAB",
    "orEABprEABqrEABrrEABsrEABtrEABurEABvrEABwrEABxrEAByrEABzrEAB0rEAB1rEBB0oEAB1oEABnuEABouEABsuEABu",
    "uEABzuEAB3uEAB5uEAB8oEAB9uEAB/uEAB9oEAB+oEABgpEABipEABjpEABnpEABppEABrpEABspEABtpEABupEABvpEAByp",
    "EAB2pEABgqEABnqEABsqEABxvEAByvEAB3qEAB4qEAB5qEABksEABlsEABosEABxsEABysEAB0sEAB+sEABhtEDBgwTABs0T",
    "ABpwTAB72VABqwTABtxTABrwTABypdAB5yTAB5wTABhwTABppWABw5VAB61TgDDoBgoEpBADoBioEpBADoBjoEpBADoBloEp",
    "BADoBmoEpBADoBnoEpBADoBpoEpBADoBroEpBADoBsoEpBADoBuoEpBADoBvoEpBADoBwoEpBADoBxoEpBADoByoEpBADoBg",
    "grBpBADoB4ksBpBADoBk3sBpBADoB87tBpBADoBouuBpBADoB0gvBpBADoBslwBpBADoBkqxBpBADoBw8xBpBADoBohzBpBA",
    "DoB0zzBpBADoBgm0BpBADoBs40BpBADoB4q1BpBADoB8nyBpBAEoBkxxBkgyBpBAEoBkxxBk21BpBBDoBgwTpBADoBs0TpBA",
    "DoBpwTpBADoB72VpBADoB00TpBADoBtrUpBADoBjwTpBADoBrrUpBADoB9yTpBADoBh6UpBADoBo4ZpBADoBrjcpBADoB0hb",
    "pBADoBo5ZpBADoBxukBpBADoB/4VpBADoBlvZpBADoBqhapBADoBp4ZpBADoB+pepBADoBtgVpBADoB5zcpBADoBhljBpBAD",
    "oB9qepBADoB01UpBADoBj3TpBADoB8jVpBADoBm7WpBADoBj3dpBADoBh4TpBADoBnmjBpBADoB06UpBADoBtrepBADoBx4T",
    "pBADoBqvgBpBADoBzvgBpBABvqVAB8zXABnsZABv8eIDwD0DlDACyBxBACyByBACyBzBACyB0BACyB1BACyB2BACyB3BACyB",
    "4BACyB5BACzBwBACzBxBACzByBACzBzBACzB0BACzB1BABgoEABioEABjoEABloEABmoEABnoEABpoEABroEABsoEABuoEAB",
    "voEABwoEABxoEAByoEABggrBAB4ksBABk3sBAB87tBABouuBAB0gvBABslwBABkqxBABw8xBABohzBAB0zzBABgm0BABs40B",
    "AB4q1BAC4hzBgnrBAC8nyB46xBABw1xBBBgwTABs0TABpwTAB72VAB00TABtrUABjwTABrrUAB9yTABh6UABo4ZABrjcAB0h",
    "bABo5ZABxukBAB/4VABlvZABqhaABp4ZAB+peABtgVAB5zcABhljBAB9qeAB01UAB4ueAB3pdABzrWABpjkBABqpUABw7UAB",
    "onbABlgmBABx4TAB5sUABj7aABqwTABtxTABrwTABmvXABz/UAB75UAB38WABm7WABj3dABh4TABnmjBAB06UAB8oWACzB2B",
    "ACzB3BACzB4BACzB5BAC0BwBAC0BxBAC0ByBAC0BzBAC0B0BAC0B1BAC0B2BAC0B3BAC0B4BAC0B5BAC1BwBACxBo4ZACyBo",
    "4ZACzBo4ZAC0Bo4ZAC1Bo4ZAC2Bo4ZAC3Bo4ZAC4Bo4ZAC5Bo4ZADxBwBo4ZADxBxBo4ZADxByBo4ZACoDnDADlDyDnDAClD",
    "2DADsD0DkDABilMABklMABmlMABolMABqlMABrlMABtlMABvlMABxlMABzlMAB1lMAB3lMAB5lMAB7lMAB9lMAB/lMABhmMA",
    "BkmMABmmMABomMABqmMABrmMABsmMABtmMABumMABvmMABymMAB1mMAB4mMAB7mMAB+mMAB/mMABgnMABhnMABinMABknMAB",
    "mnMABonMABpnMABqnMABrnMABsnMABtnMABvnMABwnMABxnMABynMACk3TskVAEilMxmM8nMomMAEilMrnM1mMhlMAEilMzn",
    "M6mMilMADilM8nMrnMAEklMrmMznMwlMADklMznMhmMADmlMplMznMAFolM5lMvlM8nMpmMAEolM8nMrlM8nMADqlMznM5lM",
    "ADqlM8nMgnMADrlMklMqnMAErlMpnMjmMomMAErlMtnMqnM8nMADslMtnMznMADslMznM+mMACulMslMADulMrmM8nMAEtlM",
    "lnMqnM8nMAEulMrnMgmM8nMACtlMtnMAFtlMtnMwlMpnMgnMAGtlMtnMhnM8nMomMrnMAFtlMtnMvnMjmMomMADwlMpnMgnM",
    "AFwlMpnMgnMomMznMAFvlMrnM8lMklMtnMAEvlMtnM8nMtmMADxlM8nM5lMADzlMrnMqmMADzlM8nM9mMAE1lMklMvlMrnMA",
    "F1lMznMhmM8nMgnMAE3lMqnMznMwlMAD7lMznMhmMAD7lMznMomMADgmM8nM5lMACnmM3lMACpmMrnMAComMznMACqmMumMA",
    "DumMjmMomMADvmMklMkmMAFxmM8nM7lMznMomMADxmM8nMkmMAEwmM8nMsnMrnMAF0mMilM5lMomMrnMAD0mMvlMrnMAC0mM",
    "zlMACzmMrnMAF1mMhlMpnMjmMpmMAE1mMjlM8nMomMAF2mMjmM3lMnlMrnMAD1mMpnMznMAF4mMvlM/lM8nMrnMAC6mM9lMA",
    "D6mMrmMymMAD4mMrnMkmMAD6mMznM5lMAD6mM8nM4lMAD5mM8nM/lMAE9mMklMznMomMAD8mMrnMomMAC7mMznMAD9mMznMp",
    "mMAD7mM8nMrnMAD7mM8nMznMAE+mMklMvlMtnMAD+mMklMrnMAD+mMjmMvmMAD+mMrnMvlMAF+mMznM3lMnnMznMAE/mMvlM",
    "tnMznMAC/mMqnMAF/mMqnMwmM8nMrnMAChnMslMAEhnMslMomMznMAEhnM8nMomMrnMADknM8nMpmMADknM8nMrnMADmnMil",
    "MznMAEqnMjmMomMrnMACqnMpnMADrnM0mM8nMAErnM8nM2mMrnMACsnMgnMAFsnMznMomMylMznMADvnMjmMomMACwB5lcAC",
    "xB5lcACyB5lcACzB5lcAC0B5lcAC1B5lcAC2B5lcAC3B5lcAC4B5lcAC5B5lcADxBwB5lcADxBxB5lcADxByB5lcADxBzB5l",
    "cADxB0B5lcADxB1B5lcADxB2B5lcADxB3B5lcADxB4B5lcADxB5B5lcADyBwB5lcADyBxB5lcADyByB5lcADyBzB5lcADyB0",
    "B5lcADoDwDhDACkDhDAChD1DADiDhDyDACvD2DACwDjDACkDtDADkDtDyBADkDtDzBACpD1DACzzXwwYACtxZskVACnpWj7a",
    "ACuwZ7lbAEqhav4X64T+peACwDhDACuDhDAC8dhDACtDhDACrDhDACrDiDACtDiDACnDiDADjDhDsDAErDjDhDsDACwDmDAC",
    "uDmDAC8dmDAC8dnDACtDnDACrDnDACoD6DADrDoD6DADtDoD6DADnDoD6DAD0DoD6DAC8dsDACtDsDACkDsDACrDsDACmDtD",
    "ACuDtDAC8dtDACtDtDACjDtDACrDtDADtDtDyBADjDtDyBACtDyBADrDtDyBADtDtDzBADjDtDzBACtDzBADrDtDzBADtD1w",
    "IzDAEtD1wIzDyBACwDhDADrDwDhDADtDwDhDADnDwDhDADyDhDkDAFyDhDkD1wIzDAGyDhDkD1wIzDyBACwDzDACuDzDAC8d",
    "zDACtDzDACwD2DACuD2DAC8d2DACtD2DACrD2DACtD2DACwD3DACuD3DAC8d3DACtD3DACrD3DACtD3DACrDpeACtDpeBCiD",
    "xDACjDjDACjDkDAEjD1wIrDnDBCkDiDACnD5DACoDhDACoDwDACpDuDACrDrDACrDtDACrD0DACsDtDACsDuDADsDvDnDACs",
    "D4DACtDiDADtDpDsDADtDvDsDACwDoDBDwDwDtDACwDyDACzDyDACzD2DAC3DiDAD2D1wItDADhD1wItDACxBlvZACyBlvZA",
    "CzBlvZAC0BlvZAC1BlvZAC2BlvZAC3BlvZAC4BlvZAC5BlvZADxBwBlvZADxBxBlvZADxByBlvZADxBzBlvZADxB0BlvZADx",
    "B1BlvZADxB2BlvZADxB3BlvZADxB4BlvZADxB5BlvZADyBwBlvZADyBxBlvZADyByBlvZADyBzBlvZADyB0BlvZADyB1BlvZ",
    "ADyB2BlvZADyB3BlvZADyB4BlvZADyB5BlvZADzBwBlvZADzBxBlvZADnDhDsDgycBhypBBBjypBBBlypBBBnypBBBpypBBB",
    "rypBBBtypBBBvypBBBxypBBBzypBBB1ypBBB3ypBBB5ypBBB7ypBBB9ypBBB/ypBBBhzpBBBjzpBBBlzpBBBnzpBBBpzpBBB",
    "rzpBBBtzpBTBh0pBBBj0pBBBl0pBBBn0pBBBp0pBBBr0pBBBt0pBBBv0pBBBx0pBBBz0pBBB10pBBB30pBBB50pBBB70pBBB",
    "qiBABsiBkEBj5pBBBl5pBBBn5pBBBp5pBBBr5pBBBt5pBBBv5pBDBz5pBBB15pBBB35pBBB55pBBB75pBBB95pBBB/5pBBBh",
    "6pBBBj6pBBBl6pBBBn6pBBBp6pBBBr6pBBBt6pBBBv6pBBBx6pBBBz6pBBB16pBBB36pBBB56pBBB76pBBB96pBBB/6pBBBh",
    "7pBBBj7pBBBl7pBBBn7pBBBp7pBBBr7pBBBt7pBBBv7pBBBv7pBIB67pBBB87pBBB5rHAB/7pBBBh8pBBBj8pBBBl8pBBBn8",
    "pBEBs8pBBBlTCBx8pBBBz8pBDB38pBBB58pBBB78pBBB98pBBB/8pBBBh9pBBBj9pBBBl9pBBBn9pBBBp9pBBBmTAB8SABhT",
    "ABsTABqTBB+UABnUAB9UABz6qBAB19pBBB39pBBB59pBBB79pBBB99pBBB/9pBBBh+pBBBj+pBBB08pBABiUABusHABo+pBB",
    "Bq+pBBBkTABt+pBBBv+pBBBx+pBBBz+pBBB1+pBBB3+pBBB5+pBBB7+pBBB7MUBzDABjDABmDABxDAB2/pBCBnJABzKibBn5",
    "pBAB35qBABrTABy6qBJBtUGBg9EABh9EABi9EABj9EABk9EABl9EABm9EABn9EABo9EABp9EABq9EABr9EABs9EABt9EABu9",
    "EABv9EABw9EABx9EABy9EABz9EAB09EAB19EAB29EAB39EAB49EAB59EAB69EAB79EAB89EAB99EAB+9EAB/9EABg+EABh+E",
    "ABi+EABj+EABk+EABl+EABm+EABn+EABo+EABp+EABq+EABr+EABs+EABt+EABu+EABv+EABw+EABx+EABy+EABz+EAB0+EA",
    "B1+EAB2+EAB3+EAB4+EAB5+EAB6+EAB7+EAB8+EAB9+EAB++EAB/+EABg/EABh/EABi/EABj/EABk/EABl/EABm/EABn/EAB",
    "o/EABp/EABq/EABr/EABs/EABt/EABu/EABv/EgqTBoijBAB03ZABq2jBABomjBABx2bAByxTABl/UAB88nBAB88nBABxqWA",
    "BxukBABnsVABoqWAB2vYABpzdABl8fAB/xhBAB69hBAB4niBABvkkBABiwaAB7obAB5mcAB++cAB9hhBABqrkBABxvmBABi0",
    "TAB17UABk4aAB7wcABtxhBAB+wnBABwqXABr/bABtuhBABkriBABp2YAB4ugBAB/giBABq2XAB34ZABqrbAB83cABumkBABm",
    "8TAB3tUAB+2UABkmZABz2aABwwcABn3dABhggBABmwhBAB8yhBABvvjBABy5lBABv7mBAB6vnBABskeAB/reABgtfABp+gBA",
    "Bk4kBAB/znBAB22iBAB/mWABk4XABgjfAB+jgBABizcABqmeABimjBAB33lBAB4mWABijXABzwaAB6ubABv4bABvpfAB3xfA",
    "BrylBABy2UABrkgBAB8uUABsuUAB8weAB+tfABx/gBAB1zlBABg8iBABv2YABiwaAB+3iBAB5xTABn/WABygYABn8cABwrdA",
    "B34UAB7neAB/9TABp9XABtwTABsmbAB4rZABipfABj+UAB+iWABh4dABpihBABq1iBAB69aABw9jBABokbAB+3YABl3gBABg",
    "9YABlrdABu1TABprUABpuUABhkaABnnfABvzgBABy2iBABvukBAB13UABiiVABzrWABs3XABluZAB+/bABqpeABttlBABqzm",
    "BAB30nBABu2nBAB70UABm2ZAB37aABi7jBAB0zXABwsYABgwYAB6kZABj5bABpqcABpkdABqueAB0vfABvjgBABm5jBABunh",
    "BABjhkBABq6kBAB3wUABj1UAB9lVABomcABimiBABq1iBABp2XAB1/XAB77YABu9aAB+hfAB17cABk3TAB53VABn/WAB6tXA",
    "B8gYABy9cABpjdAB68fABmigBAB0xkBAB23lBABo6lBAB4gmBABr8TAButeAB0tkBAB41lBABhnYABm0TAB6mUABu/WAB/hX",
    "AB5sZABiwaABuucABiydAB8nhBAB8jkBABt8nBABo0ZABuxlBABp0UAB77ZABz/ZABhqbAB80bABpgdAB5qdABrjeABwofAB",
    "+imBABtrUABuxYAB4zlBABrhUAB5oXABqvbABq5jBABr8XABkqYAB3gaABn8cABm0lBABpxUABvgVABljXABzwZABu6ZABol",
    "aABlnbABmgdABivdAB57fABvmiBABhniBABsukBABi3lBAB/5UAB61bAB9gVABwucAB4kdAB6vhBABj1lBAB3inBAB/0nBAB",
    "38ZABrubABovgBABr2eABg5eABykfABg2cAB5kcAB46iBABg2TAB25gBAB6xUABnwUABm1XABz2YAB2mfABl8WAB+obAB01Z",
    "AB75jBABsiiBABtylBABrsiBABz2XABgqUABguVCB6iWBB0zZCB+uUABq5cABq2dAB8peAB+qeABlreABvseAB26lBAB+lfA",
    "B99fBBywhBBB43iBCB4hkBAB9nkBDBvnmBAB8nmBABopmBAB0tnBAB+mkBAB31lBABu9TABnnUABtqUABp2UABk3UABx6UAB",
    "9sVABmwVABozVABgiWABolWABkjXABujXAB0kYABorYABusYAByvYABvqZABivZABx0ZABlkaAB3rbAB6wbABi5bABurcABr",
    "xcABihdABxkeAB+peABpqeABoqeABwqeAB2qeAB9qeABtseABuseABgyeABh0eABg+eAB0vfABpwfABhyfABy7fABlggBABt",
    "vgBAB5zgBAB5zgBAB3ihBABwoiBAB2siBABh4iBAB55iBABzmjBABoojBAB29jBAB4hkBABj3lBAB//lBAB7hmBAB1jYABu3",
    "wEAB4wgBCBmxTAB1tUABorUABg8TABlqUABgsUABn2UAB63UAB9sVAB1qVAB5sVABivVAB6iWABzlWABkqWAB0qWABizWABo",
    "5WABy2XAB52XABp7XABt9XAB4mYABuqYABooYABusYABgrYAByvYAB0xYABk+YAB8gZAByiZAB2qZAB0zZAB34ZAB74ZAB26",
    "ZAB57aAB69aABhqbAB72bABr2bABi5bAB+gcABurcABn9dAB1xcABv1cABq5cABxjdABmodAB7pdAB9wdAB/wdABq2dAB72d",
    "AB03dABq6dABg6dABsmeABx1eABg+eAB7jfAB7qfAB0vfAB+5fABlggBABy6gBABv/gBAB57hBABhqiBABmsiBAB2siBAB/1",
    "iBAB43iBABr2iBABh4iBAB+3iBABt3iBAB55iBABq8iBABoojBAB45jBAByjkBAB5skBAB2zkBAB8zlBABj3lBAB26lBAB7+",
    "lBAB//lBABrgmBAB7hmBABy4mBAB88nBABqiqEABkiqEAB1+sEAB98OAB4gQAB5hQABpy0EABwm3EABz2/EABj6nBABu8nBm",
    "BCmDmDACmDpDACmDsDADmDmDpDADmDmDsDACzD0DACzD0DMC0rB2rBAC0rBlrBAC0rBrrBAC+rB2rBAC0rBtrBFC5uB0tBBC",
    "yvB3tBABivBABwuBABzuBAB0uBAB7uBAB8uBAB9uBABovBABqvBABrBACpvBhuBACpvBiuBADpvB8tBhuBADpvB8tBiuBACw",
    "uB3tBACwuB4tBACwuB8tBACxuB8tBACyuB8tBACzuB8tBAC0uB8tBAC1uB8tBAC2uB8tBBC4uB8tBAC5uB8tBAC6uB8tBAC7",
    "uB8tBAC8uB8tBBC+uB8tBBCgvB8tBAChvB8tBBCjvB8tBACkvB8tBBCmvB8tBACnvB8tBACovB8tBACpvB8tBACqvB8tBAC1",
    "uB5tBACxuB/tBAC7uB/tBACkvB/tBACwuB8uBABxzBABxzBAB7zBAB7zBAB7zBAB7zBAB+zBAB+zBAB+zBAB+zBABg0BABg0",
    "BABg0BABg0BAB6zBAB6zBAB6zBAB6zBAB/zBAB/zBAB/zBAB/zBAB5zBAB5zBAB5zBAB5zBABk1BABk1BABk1BABk1BABm1B",
    "ABm1BABm1BABm1BABk0BABk0BABk0BABk0BABj0BABj0BABj0BABj0BABm0BABm0BABm0BABm0BABn0BABn0BABn0BABn0BA",
    "Bt0BABt0BABs0BABs0BABu0BABu0BABo0BABo0BAB40BAB40BABx0BABx0BABp1BABp1BABp1BABp1BABv1BABv1BABv1BAB",
    "v1BABz1BABz1BABz1BABz1BABx1BABx1BABx1BABx1BAB61BAB61BAB71BAB71BAB71BAB71BABg2BABg2BABh2BABh2BABh",
    "2BABh2BAB+1BAB+1BAB+1BAB+1BABy2BABy2BABz2BABz2BhBBt1BABt1BABt1BABt1BABn2BABn2BABm2BABm2BABo2BABo",
    "2BACn2B0zBABr2BABr2BABl2BABl2BABp2BABp2BABw2BABw2BABw2BABw2BABpyBABpyBACmxBnxBACmxBnxBACmxB12BAC",
    "mxB12BACmxBoyBACmxBoyBACmxBn2BACmxBn2BACmxBm2BACmxBm2BACmxBo2BACmxBo2BACmxBw2BACmxBw2BACmxBw2BAC",
    "mxBpyBACmxBpyBACmxBpyBABs2BABs2BABs2BABs2BACmxBsxBACmxBtxBACmxBlyBACmxBpyBACmxBqyBACoxBsxBACoxBt",
    "xBACoxBuxBACoxBlyBACoxBpyBACoxBqyBACqxBsxBACqxBtxBACqxBuxBACqxBlyBACqxBpyBACqxBqyBACrxBsxBACrxBl",
    "yBACrxBpyBACrxBqyBACsxBtxBACsxBlyBACtxBsxBACtxBlyBACuxBsxBACuxBtxBACuxBlyBACzxBsxBACzxBtxBACzxBu",
    "xBACzxBlyBAC1xBtxBAC1xBlyBAC2xBsxBAC2xBtxBAC2xBuxBAC2xBlyBAC3xBtxBAC3xBlyBAC4xBlyBAC5xBsxBAC5xBl",
    "yBAC6xBsxBAC6xBlyBAChyBsxBAChyBtxBAChyBuxBAChyBlyBAChyBpyBAChyBqyBACiyBtxBACiyBlyBACiyBpyBACiyBq",
    "yBACjyBnxBACjyBsxBACjyBtxBACjyBuxBACjyBkyBACjyBlyBACjyBpyBACjyBqyBACkyBsxBACkyBtxBACkyBuxBACkyBl",
    "yBACkyBpyBACkyBqyBAClyBsxBAClyBtxBAClyBuxBAClyBlyBAClyBpyBAClyBqyBACmyBsxBACmyBtxBACmyBuxBACmyBl",
    "yBACmyBpyBACmyBqyBACnyBsxBACnyBlyBACnyBpyBACnyBqyBACqyBsxBACqyBtxBACqyBuxBACqyBlyBACqyBpyBACqyBq",
    "yBACwxBwzBACxxBwzBACpyBwzBADgBsyBxyBADgBtyBxyBADgBuyBxyBADgBvyBxyBADgBwyBxyBADgBxyBwzBACmxBxxBAC",
    "mxByxBACmxBlyBACmxBmyBACmxBpyBACmxBqyBACoxBxxBACoxByxBACoxBlyBACoxBmyBACoxBpyBACoxBqyBACqxBxxBAC",
    "qxByxBACqxBlyBACqxBmyBACqxBpyBACqxBqyBACrxBxxBACrxByxBACrxBlyBACrxBmyBACrxBpyBACrxBqyBAChyBpyBAC",
    "hyBqyBACiyBpyBACiyBqyBACjyBnxBACjyBkyBACjyBlyBACjyBpyBACjyBqyBACkyBlyBACkyBpyBACkyBqyBAClyBnxBAC",
    "lyBlyBACmyBxxBACmyByxBACmyBlyBACmyBmyBACmyBpyBACmyBqyBACpyBwzBACqyBxxBACqyByxBACqyBlyBACqyBmyBAC",
    "qyBpyBACqyBqyBACmxBsxBACmxBtxBACmxBuxBACmxBlyBACmxBnyBACoxBsxBACoxBtxBACoxBuxBACoxBlyBACoxBnyBAC",
    "qxBsxBACqxBtxBACqxBuxBACqxBlyBACqxBnyBACrxBlyBACsxBtxBACsxBlyBACtxBsxBACtxBlyBACuxBsxBACuxBlyBAC",
    "zxBsxBACzxBtxBACzxBuxBACzxBlyBAC1xBtxBAC1xBuxBAC1xBlyBAC2xBsxBAC2xBtxBAC2xBuxBAC2xBlyBAC3xBtxBAC",
    "4xBlyBAC5xBsxBAC5xBlyBAC6xBsxBAC6xBlyBAChyBsxBAChyBtxBAChyBuxBAChyBlyBACiyBtxBACiyBlyBACjyBsxBAC",
    "jyBtxBACjyBuxBACjyBkyBACjyBlyBACkyBsxBACkyBtxBACkyBuxBACkyBlyBACkyBnyBAClyBsxBAClyBtxBAClyBuxBAC",
    "lyBlyBACmyBsxBACmyBtxBACmyBuxBACmyBlyBACmyBnyBACnyBsxBACnyBlyBACnyBwzBACqyBsxBACqyBtxBACqyBuxBAC",
    "qyBlyBACqyBnyBACmxBlyBACmxBnyBACoxBlyBACoxBnyBACqxBlyBACqxBnyBACrxBlyBACrxBnyBACzxBlyBACzxBnyBAC",
    "0xBlyBAC0xBnyBACjyBkyBACjyBlyBACkyBlyBACmyBlyBACmyBnyBACqyBlyBACqyBnyBADgyBuyBxyBADgyBvyBxyBADgy",
    "BwyBxyBAC3xBpyBAC3xBqyBAC5xBpyBAC5xBqyBAC6xBpyBAC6xBqyBACzxBpyBACzxBqyBAC0xBpyBAC0xBqyBACtxBpyBA",
    "CtxBqyBACsxBpyBACsxBqyBACuxBpyBACuxBqyBAC1xBpyBAC1xBqyBAC2xBpyBAC2xBqyBAC0xBsxBAC0xBtxBAC0xBuxBA",
    "C0xBlyBAC0xBxxBACzxBxxBAC1xBxxBAC2xBxxBAC3xBpyBAC3xBqyBAC5xBpyBAC5xBqyBAC6xBpyBAC6xBqyBACzxBpyBA",
    "CzxBqyBAC0xBpyBAC0xBqyBACtxBpyBACtxBqyBACsxBpyBACsxBqyBACuxBpyBACuxBqyBAC1xBpyBAC1xBqyBAC2xBpyBA",
    "C2xBqyBAC0xBsxBAC0xBtxBAC0xBuxBAC0xBlyBAC0xBxxBACzxBxxBAC1xBxxBAC2xBxxBAC0xBsxBAC0xBtxBAC0xBuxBA",
    "C0xBlyBACzxBnyBAC0xBnyBAC3xBlyBACzxBsxBACzxBtxBACzxBuxBAC0xBsxBAC0xBtxBAC0xBuxBAC3xBlyBAC4xBlyBA",
    "CnxBryBACnxBryBSDqxBsxBlyBADqxBtxBsxBADqxBtxBsxBADqxBtxBlyBADqxBuxBlyBADqxBlyBsxBADqxBlyBtxBADqx",
    "BlyBuxBADsxBlyBtxBADsxBlyBtxBADtxBlyBqyBADtxBlyBpyBADzxBtxBsxBADzxBsxBtxBADzxBsxBpyBADzxBlyBtxBA",
    "DzxBlyBtxBADzxBlyBsxBADzxBlyBlyBADzxBlyBlyBAD1xBtxBtxBAD1xBtxBtxBAD1xBlyBlyBAD0xBtxBlyBAD0xBtxBl",
    "yBAD0xBsxBqyBAD0xBlyBuxBAD0xBlyBuxBAD0xBlyBlyBAD0xBlyBlyBAD2xBtxBpyBAD2xBuxBlyBAD2xBuxBlyBAD3xBl",
    "yBtxBAD3xBlyBtxBAD3xBlyBlyBAD3xBlyBqyBAD5xBsxBlyBAD5xBlyBlyBAD5xBlyBlyBAD5xBlyBpyBAD6xBlyBlyBAD6",
    "xBlyBqyBAD6xBlyBpyBADhyBuxBlyBADhyBuxBlyBADiyBlyBtxBADiyBlyBlyBADkyBtxBlyBADkyBtxBqyBADkyBtxBpyB",
    "ADkyBsxBsxBADkyBsxBsxBADkyBuxBlyBADkyBuxBlyBADkyBlyBtxBADkyBlyBtxBADlyBtxBsxBADlyBtxBlyBADlyBtxB",
    "qyBADlyBsxBtxBADlyBsxBlyBADlyBuxBsxBADlyBuxBlyBCDlyBsxBuxBADnyBlyBsxBADnyBlyBlyBADmyBtxBlyBADmyB",
    "txBpyBADmyBsxBlyBADmyBsxBlyBADmyBsxBpyBADmyBlyBqyBADmyBlyBpyBADqyBlyBlyBADqyBlyBlyBADoxBuxBqyBAD",
    "qxBsxBqyBADqxBsxBpyBADqxBuxBqyBADqxBuxBpyBADqxBlyBqyBADqxBlyBpyBADsxBlyBqyBADsxBtxBpyBADsxBlyBpy",
    "BADzxBuxBpyBAD1xBtxBqyBAD0xBtxBqyBAD2xBtxBqyBADkyBsxBqyBADkyBlyBqyBADqyBtxBqyBADqyBsxBqyBADqyBly",
    "BqyBADlyBlyBqyBADiyBlyBqyBADmyBtxBqyBADiyBlyBtxBADkyBtxBlyBAD5xBlyBqyBADjyBlyBqyBADmyBsxBtxBADly",
    "BuxBqyBADkyBsxBlyBADjyBlyBlyBADkyBsxBlyBADmyBsxBtxBADsxBtxBqyBADtxBsxBqyBADlyBsxBqyBADhyBlyBqyBA",
    "DoxBtxBqyBADjyBlyBlyBAD5xBsxBlyBAD1xBlyBlyBADzxBuxBqyBADmyBsxBqyBoBD1xBkyBy2BADiyBkyBy2BAEnxBkyB",
    "kyBnyBAEnxBjyBoxBxxBAElyBtxBlyBvxBAE1xBkyB5xBlyBAExxBzxBoyBkyBAE5xBkyBqyBnyBAEoyBzxBkyBlyBAD1xBk",
    "yBpyBAS1xBkyBpyBgBnxBkyBkyBnyBgB5xBkyBqyBnyBgBoyBzxBkyBlyBAIsxBkyBgBsxBkyBnxBkyBnyBAExxBs2BnxBky",
    "BTBsBABhgMBB6BAB7BABhBAB/BAB2gMAB3gMYB0gIABzgIAB/CAB/CABoBABpBAB7DAB9DAB0gMAB1gMABwgMABxgMABqgMA",
    "BrgMABogMABpgMABsgMABtgMABugMABvgMCB7CAB9CACgBlYACgBlYACgBlYACgBlYAB/CAB/CAB/CABsBABhgMCB7BAB6BA",
    "B/BABhBAB0gIABoBABpBAB7DAB9DAB0gMAB1gMABjBABmBABqBABrBABtBAB8BAB+BAB9BBB8CABkBABlBABgCECgBryBACg",
    "yBryBACgBsyBBCgBtyBBCgBuyBACgyBuyBACgBvyBACgyBvyBACgBwyBACgyBwyBACgBxyBACgyBxyBACgByyBACgyByyBAB",
    "hxBABixBABixBABjxBABjxBABkxBABkxBABlxBABlxBABmxBABmxBABmxBABmxBABnxBABnxBABoxBABoxBABoxBABoxBABp",
    "xBABpxBABqxBABqxBABqxBABqxBABrxBABrxBABrxBABrxBABsxBABsxBABsxBABsxBABtxBABtxBABtxBABtxBABuxBABux",
    "BABuxBABuxBABvxBABvxBABwxBABwxBABxxBABxxBAByxBAByxBABzxBABzxBABzxBABzxBAB0xBAB0xBAB0xBAB0xBAB1xB",
    "AB1xBAB1xBAB1xBAB2xBAB2xBAB2xBAB2xBAB3xBAB3xBAB3xBAB3xBAB4xBAB4xBAB4xBAB4xBAB5xBAB5xBAB5xBAB5xBA",
    "B6xBAB6xBAB6xBAB6xBABhyBABhyBABhyBABhyBABiyBABiyBABiyBABiyBABjyBABjyBABjyBABjyBABkyBABkyBABkyBAB",
    "kyBABlyBABlyBABlyBABlyBABmyBABmyBABmyBABmyBABnyBABnyBABnyBABnyBABoyBABoyBABpyBABpyBABqyBABqyBABq",
    "yBABqyBACkyBixBACkyBixBACkyBjxBACkyBjxBACkyBlxBACkyBlxBACkyBnxBACkyBnxBEBhBABiBABjBABkBABlBABmBA",
    "BnBABoBABpBABqBABrBABsBABtBABuBABvBABwBABxBAByBABzBAB0BAB1BAB2BAB3BAB4BAB5BAB6BAB7BAB8BAB9BAB+BA",
    "B/BABgCABhDABiDABjDABkDABlDABmDABnDABoDABpDABqDABrDABsDABtDABuDABvDABwDABxDAByDABzDAB0DAB1DAB2DA",
    "B3DAB4DAB5DAB6DAB7CAB8CAB9CAB+CAB/CABgDABhDABiDABjDABkDABlDABmDABnDABoDABpDABqDABrDABsDABtDABuDA",
    "BvDABwDABxDAByDABzDAB0DAB1DAB2DAB3DAB4DAB5DAB6DAB7DAB8DAB9DAB+DABlsKABmsKABuBABsgMABtgMABhgMAB7n",
    "MABynMABhlMABjlMABllMABnlMABplMABjnMABlnMABnnMABjmMAB8nMABilMABklMABmlMABolMABqlMABrlMABtlMABvlM",
    "ABxlMABzlMAB1lMAB3lMAB5lMAB7lMAB9lMAB/lMABhmMABkmMABmmMABomMABqmMABrmMABsmMABtmMABumMABvmMABymMA",
    "B1mMAB4mMAB7mMAB+mMAB/mMABgnMABhnMABinMABknMABmnMABonMABpnMABqnMABrnMABsnMABtnMABvnMABznMAB5kMAB",
    "6kMBBgoEABhoEABqtEABioEABstEABttEABjoEABkoEABloEABwtEABxtEABytEABztEAB0tEAB1tEAB6oEABmoEABnoEABo",
    "oEABhpEABpoEABqoEABroEABsoEABtoEABuoEABvoEABwoEABxoEAByoEDBhrEABirEABjrEABkrEABlrEABmrECBnrEABor",
    "EABprEABqrEABrrEABsrECBtrEABurEABvrEABwrEABxrEAByrECBzrEAB0rEAB1rEDBiFABjFABsFACgBkYABmFABlFABpl",
    "IBBioJABwsIABxsIABysIABzsIABgtJABruJxgBBohhCABphhCABqhhCABrhhCABshhCABthhCABuhhCABvhhCABwhhCABxh",
    "hCAByhhCABzhhCAB0hhCAB1hhCAB2hhCAB3hhCAB4hhCAB5hhCAB6hhCAB7hhCAB8hhCAB9hhCAB+hhCAB/hhCABgihCABhi",
    "hCABiihCABjihCABkihCABlihCABmihCABnihCABoihCABpihCABqihCABrihCABsihCABtihCABuihCABvihCoEB4mhCAB5",
    "mhCAB6mhCAB7mhCAB8mhCAB9mhCAB+mhCAB/mhCABgnhCABhnhCABinhCABjnhCABknhCABlnhCABmnhCABnnhCABonhCABp",
    "nhCABqnhCABrnhCABsnhCABtnhCABunhCABvnhCABwnhCABxnhCABynhCABznhCAB0nhCAB1nhCAB2nhCAB3nhCAB4nhCAB5",
    "nhCAB6nhCAB7nhC8EB3shCAB4shCAB5shCAB6shCAB7shCAB8shCAB9shCAB+shCAB/shCABgthCABhthCBBjthCABkthCAB",
    "lthCABmthCABnthCABothCABpthCABqthCABrthCABsthCABtthCAButhCABvthCABwthCABxthCBBzthCAB0thCAB1thCAB",
    "2thCAB3thCAB4thCAB5thCBB7thCAB8thCrPBwWABxWABmHAB5UABzSBBjVABm7qBABlVABkVAB2SAB3SABxsHAB4SAB+SAB",
    "pVABkTABiTABgTAB7UABnJAB8UABnTABkUABqVABrVABsTABk43DABu8pBABuTABl43DABuUABm43DAB4HAB2TAB3TABxDAB",
    "6TABo43DAB9TAB+TABgUABoVABmVABn7qBABnVABoUABxjLBBvUABhVABiVAB4UABgOABhOABiOABq43DAB+43DlmBBgmjCA",
    "BhmjCABimjCABjmjCABkmjCABlmjCABmmjCABnmjCABomjCABpmjCABqmjCABrmjCABsmjCABtmjCABumjCABvmjCABwmjCA",
    "BxmjCABymjCABzmjCAB0mjCAB1mjCAB2mjCAB3mjCAB4mjCAB5mjCAB6mjCAB7mjCAB8mjCAB9mjCAB+mjCAB/mjCABgnjCA",
    "BhnjCABinjCABjnjCABknjCABlnjCABmnjCABnnjCABonjCABpnjCABqnjCABrnjCABsnjCABtnjCABunjCABvnjCABwnjCA",
    "BxnjCABynjC9EBwrjCABxrjCAByrjCABzrjCAB0rjCAB1rjCAB2rjCAB3rjCAB4rjCAB5rjCAB6rjCAB7rjCAB8rjCAB9rjC",
    "AB+rjCAB/rjCABgsjCABhsjCABisjCABjsjCABksjCABlsjC65CBgmmCABhmmCABimmCABjmmCABkmmCABlmmCABmmmCABnm",
    "mCABommCABpmmCABqmmCABrmmCABsmmCABtmmCABummCABvmmCABwmmCABxmmCABymmCABzmmCAB0mmCAB1mmCAB2mmCAB3m",
    "mCAB4mmCAB5mmCAB6mmCAB7mmCAB8mmCAB9mmCAB+mmCAB/mmCgsVBgz7CABhz7CABiz7CABjz7CABkz7CABlz7CABmz7CAB",
    "nz7CABoz7CABpz7CABqz7CABrz7CABsz7CABtz7CABuz7CABvz7CABwz7CABxz7CAByz7CABzz7CAB0z7CAB1z7CAB2z7CAB",
    "3z7CAB4z7CAB5z7CAB6z7CAB7z7CAB8z7CAB9z7CAB+z7CAB/z7CgCB717CAB817CAB917CAB+17CAB/17CABg27CABh27CA",
    "Bi27CABj27CABk27CABl27CABm27CABn27CABo27CABp27CABq27CABr27CABs27CABt27CABu27CABv27CABw27CABx27CA",
    "By27CABz27C9wXBhDABiDABjDABkDABlDABmDABnDABoDABpDABqDABrDABsDABtDABuDABvDABwDABxDAByDABzDAB0DAB1",
    "DAB2DAB3DAB4DAB5DAB6DABwBABxBAByBABzBAB0BAB1BAB2BAB3BAB4BAB5BkjBC3q0Dlr0DAC4q0Dlr0DAD4q0Dlr0Dur0",
    "DAD4q0Dlr0Dvr0DAD4q0Dlr0Dwr0DAD4q0Dlr0Dxr0DAD4q0Dlr0Dyr0D2CC5t0Dlr0DAC6t0Dlr0DAD5t0Dlr0Dur0DAD6t",
    "0Dlr0Dur0DAD5t0Dlr0Dvr0DAD6t0Dlr0Dvr0D/RBhDABiDABjDABkDABlDABmDABnDABoDABpDABqDABrDABsDABtDABuDA",
    "BvDABwDABxDAByDABzDAB0DAB1DAB2DAB3DAB4DAB5DAB6DABhDABiDABjDABkDABlDABmDABnDABoDABpDABqDABrDABsDA",
    "BtDABuDABvDABwDABxDAByDABzDAB0DAB1DAB2DAB3DAB4DAB5DAB6DABhDABiDABjDABkDABlDABmDABnDABoDABpDABqDA",
    "BrDABsDABtDABuDABvDABwDABxDAByDABzDAB0DAB1DAB2DAB3DAB4DAB5DAB6DABhDABiDABjDABkDABlDABmDABnDBBpDA",
    "BqDABrDABsDABtDABuDABvDABwDABxDAByDABzDAB0DAB1DAB2DAB3DAB4DAB5DAB6DABhDABiDABjDABkDABlDABmDABnDA",
    "BoDABpDABqDABrDABsDABtDABuDABvDABwDABxDAByDABzDAB0DAB1DAB2DAB3DAB4DAB5DAB6DABhDABiDABjDABkDABlDA",
    "BmDABnDABoDABpDABqDABrDABsDABtDABuDABvDABwDABxDAByDABzDAB0DAB1DAB2DAB3DAB4DAB5DAB6DABhDBBjDABkDC",
    "BnDCBqDABrDCBuDABvDABwDABxDBBzDAB0DAB1DAB2DAB3DAB4DAB5DAB6DABhDABiDABjDABkDBBmDBBoDABpDABqDABrDA",
    "BsDABtDABuDBBwDABxDAByDABzDAB0DAB1DAB2DAB3DAB4DAB5DAB6DABhDABiDABjDABkDABlDABmDABnDABoDABpDABqDA",
    "BrDABsDABtDABuDABvDABwDABxDAByDABzDAB0DAB1DAB2DAB3DAB4DAB5DAB6DABhDABiDABjDABkDABlDABmDABnDABoDA",
    "BpDABqDABrDABsDABtDABuDABvDABwDABxDAByDABzDAB0DAB1DAB2DAB3DAB4DAB5DAB6DABhDABiDBBkDABlDABmDABnDC",
    "BqDABrDABsDABtDABuDABvDABwDABxDBBzDAB0DAB1DAB2DAB3DAB4DAB5DBBhDABiDABjDABkDABlDABmDABnDABoDABpDA",
    "BqDABrDABsDABtDABuDABvDABwDABxDAByDABzDAB0DAB1DAB2DAB3DAB4DAB5DAB6DABhDABiDBBkDABlDABmDABnDBBpDA",
    "BqDABrDABsDABtDBBvDDBzDAB0DAB1DAB2DAB3DAB4DAB5DBBhDABiDABjDABkDABlDABmDABnDABoDABpDABqDABrDABsDA",
    "BtDABuDABvDABwDABxDAByDABzDAB0DAB1DAB2DAB3DAB4DAB5DAB6DABhDABiDABjDABkDABlDABmDABnDABoDABpDABqDA",
    "BrDABsDABtDABuDABvDABwDABxDAByDABzDAB0DAB1DAB2DAB3DAB4DAB5DAB6DABhDABiDABjDABkDABlDABmDABnDABoDA",
    "BpDABqDABrDABsDABtDABuDABvDABwDABxDAByDABzDAB0DAB1DAB2DAB3DAB4DAB5DAB6DABhDABiDABjDABkDABlDABmDA",
    "BnDABoDABpDABqDABrDABsDABtDABuDABvDABwDABxDAByDABzDAB0DAB1DAB2DAB3DAB4DAB5DAB6DABhDABiDABjDABkDA",
    "BlDABmDABnDABoDABpDABqDABrDABsDABtDABuDABvDABwDABxDAByDABzDAB0DAB1DAB2DAB3DAB4DAB5DAB6DABhDABiDA",
    "BjDABkDABlDABmDABnDABoDABpDABqDABrDABsDABtDABuDABvDABwDABxDAByDABzDAB0DAB1DAB2DAB3DAB4DAB5DAB6DA",
    "BhDABiDABjDABkDABlDABmDABnDABoDABpDABqDABrDABsDABtDABuDABvDABwDABxDAByDABzDAB0DAB1DAB2DAB3DAB4DA",
    "B5DAB6DABhDABiDABjDABkDABlDABmDABnDABoDABpDABqDABrDABsDABtDABuDABvDABwDABxDAByDABzDAB0DAB1DAB2DA",
    "B3DAB4DAB5DAB6DABhDABiDABjDABkDABlDABmDABnDABoDABpDABqDABrDABsDABtDABuDABvDABwDABxDAByDABzDAB0DA",
    "B1DAB2DAB3DAB4DAB5DAB6DABhDABiDABjDABkDABlDABmDABnDABoDABpDABqDABrDABsDABtDABuDABvDABwDABxDAByDA",
    "BzDAB0DAB1DAB2DAB3DAB4DAB5DAB6DABhDABiDABjDABkDABlDABmDABnDABoDABpDABqDABrDABsDABtDABuDABvDABwDA",
    "BxDAByDABzDAB0DAB1DAB2DAB3DAB4DAB5DAB6DABhDABiDABjDABkDABlDABmDABnDABoDABpDABqDABrDABsDABtDABuDA",
    "BvDABwDABxDAByDABzDAB0DAB1DAB2DAB3DAB4DAB5DAB6DABhDABiDABjDABkDABlDABmDABnDABoDABpDABqDABrDABsDA",
    "BtDABuDABvDABwDABxDAByDABzDAB0DAB1DAB2DAB3DAB4DAB5DAB6DABxJAB3RCBxdABydABzdAB0dAB1dAB2dAB3dAB4dA",
    "B5dAB6dAB7dAB8dAB9dAB+dAB/dABgeABheAB4dABjeABkeABleABmeABneABoeABpeABnwIABxdABydABzdAB0dAB1dAB2d",
    "AB3dAB4dAB5dAB6dAB7dAB8dAB9dAB+dAB/dABgeABheABjeABjeABkeABleABmeABneABoeABpeABiwIAB1dAB4dAB6dABm",
    "eABheABgeABxdABydABzdAB0dAB1dAB2dAB3dAB4dAB5dAB6dAB7dAB8dAB9dAB+dAB/dABgeABheAB4dABjeABkeABleABm",
    "eABneABoeABpeABnwIABxdABydABzdAB0dAB1dAB2dAB3dAB4dAB5dAB6dAB7dAB8dAB9dAB+dAB/dABgeABheABjeABjeAB",
    "keABleABmeABneABoeABpeABiwIAB1dAB4dAB6dABmeABheABgeABxdABydABzdAB0dAB1dAB2dAB3dAB4dAB5dAB6dAB7dA",
    "B8dAB9dAB+dAB/dABgeABheAB4dABjeABkeABleABmeABneABoeABpeABnwIABxdABydABzdAB0dAB1dAB2dAB3dAB4dAB5d",
    "AB6dAB7dAB8dAB9dAB+dAB/dABgeABheABjeABjeABkeABleABmeABneABoeABpeABiwIAB1dAB4dAB6dABmeABheABgeABx",
    "dABydABzdAB0dAB1dAB2dAB3dAB4dAB5dAB6dAB7dAB8dAB9dAB+dAB/dABgeABheAB4dABjeABkeABleABmeABneABoeABp",
    "eABnwIABxdABydABzdAB0dAB1dAB2dAB3dAB4dAB5dAB6dAB7dAB8dAB9dAB+dAB/dABgeABheABjeABjeABkeABleABmeAB",
    "neABoeABpeABiwIAB1dAB4dAB6dABmeABheABgeABxdABydABzdAB0dAB1dAB2dAB3dAB4dAB5dAB6dAB7dAB8dAB9dAB+dA",
    "B/dABgeABheAB4dABjeABkeABleABmeABneABoeABpeABnwIABxdABydABzdAB0dAB1dAB2dAB3dAB4dAB5dAB6dAB7dAB8d",
    "AB9dAB+dAB/dABgeABheABjeABjeABkeABleABmeABneABoeABpeABiwIAB1dAB4dAB6dABmeABheABgeAB9eAB9eCBwBABx",
    "BAByBABzBAB0BAB1BAB2BAB3BAB4BAB5BABwBABxBAByBABzBAB0BAB1BAB2BAB3BAB4BAB5BABwBABxBAByBABzBAB0BAB1",
    "BAB2BAB3BAB4BAB5BABwBABxBAByBABzBAB0BAB1BAB2BAB3BAB4BAB5BABwBABxBAByBABzBAB0BAB1BAB2BAB3BAB4BAB5",
    "BwhCBwhBABxhBAByhBABzhBAB0hBAB1hBAB2hBAB3hBAB4hBAB6hBAB7hBAB8hBAB+hBAB/hBABgiBABhiBABiiBABjiBABk",
    "iBABliBABmiBABniBABoiBABriBABtiBABuiBABp0pBAB5mBAB2iBAB4iBABpnBABvlBABvmBABwhBABxhBAByhBABzhBAB0",
    "hBAB1hBAB2hBAB3hBAB4hBAB6hBAB7hBAB+hBAB/hBABhiBABjiBABkiBABliBABmiBABniBABoiBABqiBABriBABxkBAB2i",
    "BAB1iBAB/iBABrlBABxypBABxlBykCBip6DABjp6DABkp6DABlp6DABmp6DABnp6DABop6DABpp6DABqp6DABrp6DABsp6DA",
    "Btp6DABup6DABvp6DABwp6DABxp6DAByp6DABzp6DAB0p6DAB1p6DAB2p6DAB3p6DAB4p6DAB5p6DAB6p6DAB7p6DAB8p6DA",
    "B9p6DAB+p6DAB/p6DABgq6DABhq6DABiq6DABjq6D+mBBnxBABoxBABsxBABvxBBBoyBAByxBABtxBAB3xBABqyBABjyBABk",
    "yBABlyBABmyBABzxBAB5xBABhyBAB1xBABiyBABxxBAB0xBABqxBABrxBABuxBABwxBAB2xBAB4xBAB6xBABuzBAB61BABh1",
    "BABvzBBBoxBABsxBBBnyBCBtxBBBqyBABjyBABkyBABlyBABmyBABzxBAB5xBABhyBAB1xBABiyBBB0xBABqxBABrxBABuxB",
    "BB2xBBB6xBGBsxBEBtxBBBqyBBBkyBBBmyBABzxBAB5xBBB1xBABiyBBB0xBCBuxBBB2xBBB6xBBB61BBBvzBBBoxBABsxBB",
    "BnyBCBtxBAB3xBABqyBABjyBBBlyBABmyBABzxBAB5xBABhyBAB1xBABiyBBB0xBABqxBABrxBABuxBBB2xBAB4xBAB6xBAB",
    "uzBBBh1BBBnxBABoxBABsxBABvxBABnyBABoyBAByxBABtxBAB3xBABqyBBBkyBABlyBABmyBABzxBAB5xBABhyBAB1xBABi",
    "yBABxxBAB0xBABqxBABrxBABuxBABwxBAB2xBAB4xBAB6xBFBoxBABsxBABvxBBBoyBAByxBABtxBAB3xBABqyBBBkyBABly",
    "BABmyBABzxBAB5xBABhyBAB1xBABiyBABxxBAB0xBABqxBABrxBABuxBABwxBAB2xBAB4xBAB6xBlSCwBsBACxBsBACyBsBA",
    "CzBsBAC0BsBAC1BsBAC2BsBAC3BsBAC4BsBAC5BsBFDoBhDpBADoBiDpBADoBjDpBADoBkDpBADoBlDpBADoBmDpBADoBnDp",
    "BADoBoDpBADoBpDpBADoBqDpBADoBrDpBADoBsDpBADoBtDpBADoBuDpBADoBvDpBADoBwDpBADoBxDpBADoByDpBADoBzDp",
    "BADoB0DpBADoB1DpBADoB2DpBADoB3DpBADoB4DpBADoB5DpBADoB6DpBAD0gMzD1gMABjDAByDACjDkDAC3D6DBBhDABiDA",
    "BjDABkDABlDABmDABnDABoDABpDABqDABrDABsDABtDABuDABvDABwDABxDAByDABzDAB0DAB1DAB2DAB3DAB4DAB5DAB6DA",
    "CoD2DACtD2DACzDkDACzDzDADwDwD2DAC3DjDaCtDjDACtDkDACtDyDjBCkDqDvDC7jMriMACzlMzlMAB1lMNBryYAB36WAB",
    "s+UABnmMABs0TAB6oWABjviBABppWABk1TABgxZABhpcAB5sZABtyUABs8XABtsUABwtZAB9wUABiqfAB/odABpljBABwnWA",
    "B5hVAB04bAB10YAB16YABgwTABpwTABqikBABmvXABtxTABz/UABn4YABwrjBABzyYABhseAB6zeABogVABg0bABp4ZABo4Z",
    "ABzpdAByzUAB2tVABtqkBED0gMs5Z1gMAD0gMpwT1gMAD0gMs0T1gMAD0gMp8W1gMAD0gM5lc1gMAD0gMzyY1gMAD0gM32d1",
    "gMAD0gM92U1gMAD0gM3qZ1gMHB38XABv/U+sCBwBABxBAByBABzBAB0BAB1BAB2BAB3BAB4BAB5Bmg/BB9xTAB4xTABhyTAB",
    "ipgEABg7TABu9TAB79TABigUAB6jUAB5kUABnnUABvmUAB+kNAB6xhEABtqUAB0qUABkrUAB3rUAB8ohEAB5lNABnrUABtsU",
    "ABrqhEAB3sUABktUABs2TABstUAB1tUAB/ukFAB1vUABjwUAB/mNAB7xUABmyUAByzUAB3zUAB1oNABn2UABp2UABk3UAB63",
    "UABl4UABm4UAB34UABp6UABx6UAB66UABz7UAB97UAB/7UAB/7UAB/7UABsxiEABwjcABq+UAB/+UABj7iEABr/UABx/UABm",
    "gVAB+kVAB4hVABoiVABojVABilVAB2nVABwoVABzqVABjrVABksVABksVAB5sVABrtVABztVABiuVAB24VABmwVAB34VABxy",
    "VAB0zVABnwUABunWABu+VAB0/VABtgWABr8VAByhWABxhWABslWABknlEABynWAB3nWABmoWAB6oWABipWABirWABo1lEABq",
    "3lEABsvWAB7wWABnxWAB4uWABmzWABu3NAB83NABo4WAB+5WAB+5WABoumEABj+WAB4+WABn/WABz/WAB44mEAB//WABmgXA",
    "Bz6XABihXABh8NABgjXABujXABgmXABtkXABkvnEABjqXABmvnEABurXABrrXAB8rXABhvXABivXABvhOAB9vXABoxXAB9xX",
    "ABpzXABijOABjsoEAB8jOABw1XABz1XAB21XABq2XABy8oFAB+3XABx5oEABx5oEABhwgBABi5XABi5XABnmOAB41sEAB6u4",
    "EABi7XABr7XABjnOAB68XABt+XAB3+XAB5/XABhkYAB6pOAB8oOAB0kYAB02pEABnmYABoqYABsqYABuqYABsqYAB6rYABus",
    "YABytYABktYABvtYAB+uYAByvYAB2vYABwwYAB7wYAB9yYABx1YAB02YABw6YABs4qEAB95YAB83YABo7YABj8YABk/YABx/",
    "qEABihZABl+YABp9YABuxOABpjZAB+jZAB9kZAB3jZABszOABvqZABsrZABqgsEABjvZAB43ZABpyZAB54OABx0ZABo4OABk",
    "3OABysUAB1sUABg4ZAB80ZABtlgBAB5+QAB34ZAB74ZABh5ZAB+6ZABz6ZABj+sEABp6OAB6/ZABl8ZAByiaABlkaABtjtEA",
    "BukaAB/gaAB0oaAB98OABiqaABjtaABqvaABo1aABj1tEAB72aAB4gPABh5aABnluEAB06aABuiPABy7aAB/8aAB69aAB79a",
    "ABt0uEABronEAB63uEABuibAB8lvEAB/lbABtmbABnjbAB2obAB+pbAB3rbABhqbABprbAB4rbABlsbAB+ovEAB0pbABvxbA",
    "BuzbABzpPABr2bABn2bABx2vEAB5vbABu7bAB+6vEABu8vEABm+bAB5hcAB+gcAB7gcAB2sPABqicAB9jcAB3jcABtlcABlp",
    "hEABlqcABjzwEAB8scABr9wEABoxcAB1xcABwycABowxEABg0cAB10cAB15xEAB0gyEAB67cABr8cABs1PABl9cAB41PAB41",
    "PABnidAB8idABxjdABlkdABqmdAB74PABkpdAB2hzEAB+pdABykzEABwrdAB/soEABwwdABh9zEAB49zEABki0EAB8/PABog",
    "QAB03dABzn0EAByn0EAB5o0EABzp0EAB+4dAB/4dAB/4dABq6dAB5hQABr8dABmiQAB2kQAB9g1EABuieABskeABsmeABjnQ",
    "ABmx1EAB2qeAB601EABl21EABvseABrveABvpQABgyeABqyeABvyeAB8r2EABn12EABn12EABu3eABiwQABr92EABm+eABp+",
    "eABnxQABgk3EABymfABg1QABonfABjnfABgofABm83EABjrfABh4QABnufABiwfABlyfAB05QABox4EABny4EAB56QAB524E",
    "AB67fAB+54EAB18fAB6/fABlggBAB6m5EABjp5EABgjgBABot5EABwjgBAB/6sEAB1+QABylgBABjogBABrgRAB+pgBAB11W",
    "ABn95EAB195EABz8sEAB88sEABhwgBABkwgBAB+8jBABrjRABx0gBABr0gBAB90gBABz1UABx1gBABz1gBAB91gBABm3gBAB",
    "856EABl3gBAB94gBABj7gBABt9gBABj5gBAB99gBABn/gBAB3ihBABz6gBABq+gBABs+gBAB8+gBAB2h7EABrr7EAB1m7EAB",
    "rpRABxnhBABznhBAB2ohBABq+8EABkrhBABs57EAB9qRABhrRABx97EABym8EABrrRABwyhBAB8yhBABnzhBABpzhBABp1hB",
    "ABo0hBABu4hBABi3hBAB57hBABo5hBABr7hBABm8hBAB3uRABh/hBABhgiBAB5vRABgjiBABjjiBABnz9EAB3miBAB+miBAB",
    "1xRAB6niBAB7lNABul+EABmr+EAB+1RABn2RABg1iBABt3iBABq8iBAB1ijBABol/EABrljBABhmjBAB7ojBAB3rjBABv5/E",
    "ABkgiEABrujBAB8tjBABwvjBAB+miEAB02jBAB45jBAByuhFABtvhFAB0kkBABxnkBABxokBABu5hFAB7okBAB4xkBAB32kB",
    "AB42kBAB8zkBAB5/kBAB1glBAB6/iFABrslBAB1sSAB3tlBAB3rjFABmvSABj2lBABytXABj5lBABlqkFAB6wkFABuzSAB2z",
    "SABg/lBABqglFABy1SAB2klFABrgmBABrgmBABphmBAB2tlFABinmBABz5SABppmBABntmBABiumBAB+vmBABu+SABw5mFAB",
    "y4mBABginBAB9nnBABumTABtnTABnrnBABumoFAB4nTABlooFABuwoFABx0oFAB71nBAB2qTAB53nBAB+3nBABl4nBABv4nB",
    "AB24nBAB75nBABgwpF"]

def status (c : Char) : Status :=
  if c.toNat < 128 then
    if c.isUpper then .mapped [c.toLower] else .valid
  else if Packed.holds validTable c then .valid
  else if Packed.holds ignoredTable c then .ignored
  else
    match mappedTable.find? fun (code, _) => code == c.toNat with
    | some (_, image) => .mapped image
    | none => .disallowed

def isValid (c : Char) : Bool :=
  match status c with
  | .valid => true
  | _ => false

/-- The mapped text, not yet in normal form; none if a character is disallowed. -/
def mapped? : List Char → Option (List Char)
  | [] => some []
  | c :: cs =>
    match status c with
    | .valid => (mapped? cs).map (c :: ·)
    | .ignored => mapped? cs
    | .mapped image => (mapped? cs).map (image ++ ·)
    | .disallowed => none

end LinkSurvey.DomainName
