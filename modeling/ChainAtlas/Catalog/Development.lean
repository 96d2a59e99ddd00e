import ChainAtlas.Json.Basic

/-!
# The development document

A document that ships with the library: the networks of the development environment.
It is read like any other document, and checked like any other.
-/

namespace ChainAtlas
namespace Catalog

/-- The entry of `ethereum` in this document. -/
def developmentEthereum : Json :=
  .object [
    ("chainId", .int 8995),
    ("environment", .text "development"),
    ("name", .text "dev0"),
    ("nativeCurrency", .object [
      ("symbol", .text "DEV"),
      ("name", .text "Developer Ethereum"),
      ("decimals", .int 18)]),
    ("rpcEndpoints", .list [
      .object [
        ("protocol", .text "http"),
        ("url", .text "http://10.200.10.1:8545")],
      .object [
        ("protocol", .text "websocket"),
        ("url", .text "ws://10.200.10.1:8545")]]),
    ("contracts", .object [
      ("AMB", .text "0xaFA0dc5Ad21796C9106a36D68f69aAD69994BB64"),
      ("DATA-token", .text "0xbAA81A0179015bE47Ad439566374F2Bae098686F"),
      ("DataUnionFactory", .text "0x90a0480c6fA6b2dC967d8F03660c81C8a5A7c465"),
      ("DataUnionTemplate", .text "0x07a4CaF6064ACFe4c279e32e5ed2F376B36DcB3F"),
      ("ENS", .text "0x92E8435EB56fD01BF4C79B66d47AC1A94338BB03"),
      ("FIFSRegistrar", .text "0x57B81a9442805f88c4617B506206531e72d96290"),
      ("Marketplace", .text "0xF1371c0f40528406dc4f4cAf89924eA9Da49E866"),
      ("MarketplaceV3", .text "0x56e57Bf7422eDe1ED75520D4387829feEe8a8319"),
      ("MigrationManager", .text "0xc7aaf6c62e86a36395d8108fe95d5f758794c16c"),
      ("PublicResolver", .text "0xBc0c81a318D57ae54dA28DE69184A9c3aE9a1e1c"),
      ("TokenMediator", .text "0xedD2aa644a6843F2e5133Fe3d6BD3F4080d97D9F"),
      ("TrackerRegistry", .text "0xBFCF120a8fD17670536f1B27D9737B775b2FD4CF"),
      ("XDATA", .text "0x6d0F3bF9aD2455b4F62f22fFD21317e1E3eEFE5C"),
      ("core-api", .text "0xFCAd0B19bB29D4674531d6f115237E16AfCE377c")])]

/-- The entry of `polygon` in this document. -/
def developmentPolygon : Json :=
  .object [
    ("chainId", .int 8997),
    ("environment", .text "development"),
    ("name", .text "dev1"),
    ("nativeCurrency", .object [
      ("symbol", .text "DEV"),
      ("name", .text "Developer Ethereum"),
      ("decimals", .int 18)]),
    ("rpcEndpoints", .list [
      .object [
        ("protocol", .text "http"),
        ("url", .text "http://10.200.10.1:8546")],
      .object [
        ("protocol", .text "websocket"),
        ("url", .text "ws://10.200.10.1:8546")]]),
    ("contracts", .object [
      ("DATA-token", .text "0x73Be21733CC5D08e1a14Ea9a399fb27DB3BEf8fF"),
      ("ENSCacheV2", .text "0x611900fD07BB133016Ed85553aF9586771da5ff9"),
      ("MarketplaceV4", .text "0xB9372284e0D61607aF3B7EF5f022e7D599Ed2a37"),
      ("ProjectRegistryV1", .text "0x3C841B9Aa08166e9B864972930703e878d25804B"),
      ("ProjectStakingV1", .text "0xBFCF120a8fD17670536f1B27D9737B775b2FD4CF"),
      ("StorageNodeRegistry", .text "0x231b810D98702782963472e1D60a25496999E75D"),
      ("StreamRegistry", .text "0x6cCdd5d866ea766f6DF5965aA98DeCCD629ff222"),
      ("StreamStorageRegistry", .text "0xd04af489677001444280366Dd0885B03dAaDe71D"),
      ("StreamrConfig", .text "0xa86863053cECFD9f6f861e0Fd39a042238411b75"),
      ("SponsorshipFactory", .text "0x58C8e321d561123649bE41445cB0690Ec3d27Fe9"),
      ("OperatorFactory", .text "0xcb5bCb343218044C547AFdcBa2e50Ac728D0DcA3")]),
    ("theGraphUrl", .text "http://10.200.10.1:8000/subgraphs/name/streamr-dev/network-subgraphs")]

/-- The document of the development environment. -/
def development : Json := .object [
  ("ethereum", developmentEthereum),
  ("polygon", developmentPolygon)]

end Catalog
end ChainAtlas
